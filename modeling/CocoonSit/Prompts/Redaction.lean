import CocoonSit.Prompts.Service

/-!
# Redaction and rendering

What a template shows of its variables is what redaction leaves of those it names.  Two sets of
variables that differ in secrets, or in variables that the template does not name, are rendered
alike.
-/

namespace CocoonSit

namespace Redaction

/-! ## Values that differ in secrets -/

mutual

/-- The values are the same but for what is under sensitive keys. -/
def SameButSecrets : PromptValue → PromptValue → Prop
  | .dict items, other => ∃ items', other = .dict items' ∧ SameItems items items'
  | .list items, other => ∃ items', other = .list items' ∧ SameList items items'
  | value, other => other = value

def SameItem : String × PromptValue → String × PromptValue → Prop
  | (key, item), other => other.1 = key ∧ (isSensitive key = true ∨ SameButSecrets item other.2)

def SameItems : List (String × PromptValue) → List (String × PromptValue) → Prop
  | [], others => others = []
  | item :: items, others =>
    ∃ other others', others = other :: others' ∧ SameItem item other ∧ SameItems items others'

def SameList : List PromptValue → List PromptValue → Prop
  | [], others => others = []
  | item :: items, others =>
    ∃ other others', others = other :: others' ∧ SameButSecrets item other ∧
      SameList items others'

end

mutual

lemma SameButSecrets.sanitize_eq : ∀ value other, SameButSecrets value other →
    sanitizeSnapshot value = sanitizeSnapshot other
  | .dict items, other, h => by
      rw [SameButSecrets] at h
      obtain ⟨items', rfl, hitems⟩ := h
      rw [sanitizeSnapshot, sanitizeSnapshot, sanitizeItems_eq_of_same items items' hitems]
  | .list items, other, h => by
      rw [SameButSecrets] at h
      obtain ⟨items', rfl, hitems⟩ := h
      rw [sanitizeSnapshot, sanitizeSnapshot, sanitizeList_eq_of_same items items' hitems]
  | .null, other, h => by
      simp only [SameButSecrets] at h
      rw [h]
  | .bool _, other, h => by
      simp only [SameButSecrets] at h
      rw [h]
  | .int _, other, h => by
      simp only [SameButSecrets] at h
      rw [h]
  | .float _, other, h => by
      simp only [SameButSecrets] at h
      rw [h]
  | .str _, other, h => by
      simp only [SameButSecrets] at h
      rw [h]

lemma sanitizeItem_eq_of_same : ∀ item other, SameItem item other →
    sanitizeItem item = sanitizeItem other
  | (key, item), (key', other), h => by
      rw [SameItem] at h
      obtain ⟨rfl, hsensitive | hsame⟩ := h
      · rw [sanitizeItem, sanitizeItem, if_pos hsensitive, if_pos hsensitive]
      · rw [sanitizeItem, sanitizeItem, hsame.sanitize_eq]

lemma sanitizeItems_eq_of_same : ∀ items others, SameItems items others →
    sanitizeItems items = sanitizeItems others
  | [], others, h => by
      rw [SameItems] at h
      rw [h]
  | item :: items, others, h => by
      rw [SameItems] at h
      obtain ⟨other, others', rfl, hitem, hitems⟩ := h
      rw [sanitizeItems, sanitizeItems, sanitizeItem_eq_of_same item other hitem,
        sanitizeItems_eq_of_same items others' hitems]

lemma sanitizeList_eq_of_same : ∀ items others, SameList items others →
    sanitizeList items = sanitizeList others
  | [], others, h => by
      rw [SameList] at h
      rw [h]
  | item :: items, others, h => by
      rw [SameList] at h
      obtain ⟨other, others', rfl, hitem, hitems⟩ := h
      rw [sanitizeList, sanitizeList, hitem.sanitize_eq,
        sanitizeList_eq_of_same items others' hitems]

end

/-! ## Redacting twice -/

mutual

lemma sanitizeSnapshot_of_redacted : ∀ value, Redacted value → sanitizeSnapshot value = value
  | .dict items, h => by
      rw [Redacted] at h
      rw [sanitizeSnapshot, sanitizeItems_of_redacted items h]
  | .list items, h => by
      rw [Redacted] at h
      rw [sanitizeSnapshot, sanitizeList_of_redacted items h]
  | .null, _ => rfl
  | .bool _, _ => rfl
  | .int _, _ => rfl
  | .float _, _ => rfl
  | .str _, _ => rfl

lemma sanitizeItem_of_redacted : ∀ item, RedactedItem item → sanitizeItem item = item
  | (key, value), h => by
      rw [RedactedItem] at h
      rw [sanitizeItem]
      by_cases hkey : isSensitive key = true
      · rw [if_pos hkey, h.1 hkey]
      · rw [if_neg hkey, sanitizeSnapshot_of_redacted value h.2]

lemma sanitizeItems_of_redacted : ∀ items, RedactedItems items → sanitizeItems items = items
  | [], _ => rfl
  | item :: items, h => by
      rw [RedactedItems] at h
      rw [sanitizeItems, sanitizeItem_of_redacted item h.1, sanitizeItems_of_redacted items h.2]

lemma sanitizeList_of_redacted : ∀ items, RedactedList items → sanitizeList items = items
  | [], _ => rfl
  | item :: items, h => by
      rw [RedactedList] at h
      rw [sanitizeList, sanitizeSnapshot_of_redacted item h.1, sanitizeList_of_redacted items h.2]

end

lemma sanitizeSnapshot_idem (value : PromptValue) :
    sanitizeSnapshot (sanitizeSnapshot value) = sanitizeSnapshot value :=
  sanitizeSnapshot_of_redacted _ (redacted_sanitizeSnapshot value)

lemma sanitizeItems_idem (items : PromptVariables) :
    sanitizeItems (sanitizeItems items) = sanitizeItems items :=
  sanitizeItems_of_redacted _ (redactedItems_sanitizeItems items)

/-! ## Placeholders -/

lemma matchPlaceholder_eq_some {cs : List Char} {key : String} {n : ℕ}
    (h : matchPlaceholder cs = some (key, n)) :
    ∃ blanks blanks' rest, cs = '\x7b' :: '\x7b' ::
        (blanks ++ (key.toList ++ (blanks' ++ '\x7d' :: '\x7d' :: rest))) ∧
      n = blanks.length + key.toList.length + blanks'.length + 4 ∧
      (∀ c ∈ blanks ++ blanks', isSpace c = true) ∧ key ≠ "" ∧
        ∀ c ∈ key.toList, isWordChar c = true := by
  unfold matchPlaceholder at h
  split at h
  · next cs' =>
    set inner := cs'.dropWhile isSpace with hinner
    dsimp only at h
    split at h
    · next rest hrest =>
      split at h
      · cases h
      · next hname =>
        obtain ⟨rfl, rfl⟩ := Prod.mk.inj (Option.some.inj h)
        have hcs : cs' = cs'.takeWhile isSpace ++ inner := List.takeWhile_append_dropWhile.symm
        have hsplit : inner = inner.takeWhile isWordChar ++ inner.dropWhile isWordChar :=
          List.takeWhile_append_dropWhile.symm
        have hclose : inner.dropWhile isWordChar =
            (inner.dropWhile isWordChar).takeWhile isSpace ++ '\x7d' :: '\x7d' :: rest := by
          rw [← hrest]
          exact List.takeWhile_append_dropWhile.symm
        have htext : cs' = cs'.takeWhile isSpace ++ (inner.takeWhile isWordChar ++
            ((inner.dropWhile isWordChar).takeWhile isSpace ++ '\x7d' :: '\x7d' :: rest)) := by
          rw [← hclose, ← hsplit, ← hcs]
        refine ⟨_, _, rest, by rw [String.toList_ofList, ← htext], ?_, ?_, ?_, ?_⟩
        · have hlength := congrArg List.length htext
          simp only [List.length_append, List.length_cons] at hlength
          rw [String.toList_ofList]
          omega
        · intro c hc
          rcases List.mem_append.mp hc with hc | hc
          · exact List.mem_takeWhile_imp hc
          · exact List.mem_takeWhile_imp hc
        · intro hempty
          exact hname (by simpa using congrArg String.toList hempty)
        · rw [String.toList_ofList]
          exact fun c hc => List.mem_takeWhile_imp hc
    · cases h
  · cases h

lemma proper_matchPlaceholder : Scan.Proper matchPlaceholder := by
  intro cs key n h
  obtain ⟨blanks, blanks', rest, rfl, rfl, -⟩ := matchPlaceholder_eq_some h
  simp only [List.length_cons, List.length_append]
  omega

/-! ## Rendering -/

/-- The variables supply the same for each of the names, but for secrets. -/
def AgreeOn (names : List String) (values values' : PromptVariables) : Prop :=
  ∀ key ∈ names, (values.lookup key = none ∧ values'.lookup key = none) ∨
    ∃ value value', values.lookup key = some value ∧ values'.lookup key = some value' ∧
      (isSensitive key = true ∨ SameButSecrets value value')

section Rendering

variable {pyStr dumps : PromptValue → String} {content : String} {values values' : PromptVariables}

lemma lookup_sanitizeItems (values : PromptVariables) (key : String) :
    (sanitizeItems values).lookup key = (values.lookup key).map fun value =>
      (sanitizeItem (key, value)).2 := by
  induction values with
  | nil => rfl
  | cons item values ih =>
    obtain ⟨name, value⟩ := item
    rw [sanitizeItems, sanitizeItem, List.lookup_cons, List.lookup_cons]
    by_cases hkey : key = name
    · rw [hkey, beq_self_eq_true]
      rfl
    · rw [beq_false_of_ne hkey]
      exact ih

lemma AgreeOn.lookup_eq {names : List String} {key : String} (hagree : AgreeOn names values values')
    (hkey : key ∈ names) :
    (sanitizeItems values).lookup key = (sanitizeItems values').lookup key := by
  rw [lookup_sanitizeItems, lookup_sanitizeItems]
  rcases hagree key hkey with ⟨hnone, hnone'⟩ | ⟨value, value', hvalue, hvalue', hsame⟩
  · rw [hnone, hnone']
  · rw [hvalue, hvalue', Option.map_some, Option.map_some, sanitizeItem, sanitizeItem]
    rcases hsame with hsensitive | hsame
    · rw [if_pos hsensitive, if_pos hsensitive]
    · rw [hsame.sanitize_eq]

lemma renderTemplate_congr (h : ∀ key ∈ findPlaceholders content,
    (sanitizeItems values).lookup key = (sanitizeItems values').lookup key) :
    renderTemplate pyStr dumps content values = renderTemplate pyStr dumps content values' := by
  unfold renderTemplate
  rw [Scan.sub_congr fun key hkey => ?_]
  unfold replacePlaceholder
  rw [h key (mem_findPlaceholders.mpr hkey)]

/-- The text that stands for a name. -/
def replacement (pyStr dumps : PromptValue → String) (values : PromptVariables) (key : String) :
    List Char :=
  (coerceRenderValue pyStr dumps (lookupItem (sanitizeItems values) key) key).toList

lemma renderTemplate_eq_ok {text : String}
    (hrender : renderTemplate pyStr dumps content values = .ok text) :
    Scan.Substituted matchPlaceholder (replacement pyStr dumps values) content.toList
      text.toList := by
  have hall := renderTemplate_isOk_iff.mp
    (show (renderTemplate pyStr dumps content values).isOk by rw [hrender]; rfl)
  have hreplace : ∀ key ∈ Scan.findall matchPlaceholder content.toList,
      replacePlaceholder pyStr dumps (sanitizeItems values) key =
        .ok (replacement pyStr dumps values key) := by
    intro key hkey
    have hmem := hall key (mem_findPlaceholders.mpr hkey)
    rw [← keys_sanitizeItems values] at hmem
    obtain ⟨value, hvalue⟩ : ∃ value, (sanitizeItems values).lookup key = some value := by
      cases hlookup : (sanitizeItems values).lookup key with
      | some value => exact ⟨value, rfl⟩
      | none =>
        obtain ⟨item, hitem, rfl⟩ := List.mem_map.mp hmem
        simpa using List.lookup_eq_none_iff.mp hlookup item hitem
    unfold replacePlaceholder replacement lookupItem
    rw [hvalue]
    rfl
  obtain ⟨out, hout, hsubstituted⟩ := Scan.sub_eq_ok proper_matchPlaceholder hreplace
  rw [renderTemplate, hout] at hrender
  obtain rfl : String.ofList out = text := Except.ok.inj hrender
  rwa [String.toList_ofList]

lemma missingVariables_congr {revision : PromptTemplateRevision}
    (hagree : AgreeOn revision.variablesJson values values') :
    missingVariables revision values = missingVariables revision values' := by
  have hmem : ∀ (values : PromptVariables) (key : String),
      key ∈ values.map Prod.fst ↔ values.lookup key ≠ none := by
    intro values key
    rw [Ne, List.lookup_eq_none_iff, List.mem_map]
    push Not
    exact ⟨fun ⟨item, hitem, heq⟩ => ⟨item, hitem, by simp [heq]⟩,
      fun ⟨item, hitem, heq⟩ => ⟨item, hitem, (show key = item.1 by simpa using heq).symm⟩⟩
  unfold missingVariables
  refine List.filter_congr fun key hkey => ?_
  have hiff : key ∈ values.map Prod.fst ↔ key ∈ values'.map Prod.fst := by
    rw [hmem, hmem]
    rcases hagree key hkey with ⟨hnone, hnone'⟩ | ⟨value, value', hvalue, hvalue', -⟩
    · rw [hnone, hnone']
    · rw [hvalue, hvalue']
      simp
  rw [List.contains_eq_mem, List.contains_eq_mem, decide_eq_decide.mpr hiff]

lemma render_congr {tables : PromptTables} {templateType : String}
    (hagree : ∀ template revision, findTemplate tables templateType = some template →
      getActiveRevision tables template = some revision →
        AgreeOn (revision.variablesJson ++ findPlaceholders revision.content) values values') :
    (render pyStr dumps tables templateType values).map RenderedTemplate.rendered =
      (render pyStr dumps tables templateType values').map RenderedTemplate.rendered := by
  unfold render getTemplate
  cases htemplate : findTemplate tables templateType with
  | none => rfl
  | some template =>
    dsimp only
    cases hrevision : getActiveRevision tables template with
    | none => rfl
    | some revision =>
      have hagree := hagree template revision htemplate hrevision
      have hmissing : missingVariables revision values = missingVariables revision values' :=
        missingVariables_congr fun key hkey => hagree key (List.mem_append_left _ hkey)
      have htext : renderTemplate pyStr dumps revision.content (sanitizeItems values) =
          renderTemplate pyStr dumps revision.content (sanitizeItems values') := by
        refine renderTemplate_congr fun key hkey => ?_
        rw [sanitizeItems_idem, sanitizeItems_idem]
        exact hagree.lookup_eq (List.mem_append_right _ hkey)
      unfold renderRevision
      dsimp only
      rw [hmissing, htext]
      split
      · cases renderTemplate pyStr dumps revision.content (sanitizeItems values') <;> rfl
      · rfl

end Rendering

/-- Redaction leaves no secret anywhere, and nothing for a second redaction.  A template is rendered
if and only if its placeholders all have variables; each is replaced once; and what comes of it is
determined by what redaction leaves of these variables, and so, for the service too, does not depend
on secrets or on other variables. -/
theorem rendering_redacts (pyStr dumps : PromptValue → String) :
    (∀ value, Redacted (sanitizeSnapshot value) ∧
      sanitizeSnapshot (sanitizeSnapshot value) = sanitizeSnapshot value ∧
      ∀ other, SameButSecrets value other → sanitizeSnapshot value = sanitizeSnapshot other) ∧
    (∀ content values,
      ((renderTemplate pyStr dumps content values).isOk ↔
        ∀ key ∈ findPlaceholders content, key ∈ values.map Prod.fst) ∧
      (∀ text, renderTemplate pyStr dumps content values = .ok text →
        Scan.Substituted matchPlaceholder (replacement pyStr dumps values) content.toList
          text.toList) ∧
      ∀ values', (∀ key ∈ findPlaceholders content,
          (sanitizeItems values).lookup key = (sanitizeItems values').lookup key) ∨
          AgreeOn (findPlaceholders content) values values' →
        renderTemplate pyStr dumps content values = renderTemplate pyStr dumps content values') ∧
    ∀ tables templateType values values',
      (∀ template revision, findTemplate tables templateType = some template →
        getActiveRevision tables template = some revision →
          AgreeOn (revision.variablesJson ++ findPlaceholders revision.content) values values') →
      (render pyStr dumps tables templateType values).map RenderedTemplate.rendered =
        (render pyStr dumps tables templateType values').map RenderedTemplate.rendered := by
  refine ⟨fun value => ⟨redacted_sanitizeSnapshot value, sanitizeSnapshot_idem value,
      fun other hsame => hsame.sanitize_eq⟩,
    fun content values => ⟨renderTemplate_isOk_iff, fun text => renderTemplate_eq_ok,
      fun values' hsame => ?_⟩, fun tables templateType values values' => render_congr⟩
  rcases hsame with hsame | hagree
  · exact renderTemplate_congr hsame
  · exact renderTemplate_congr fun key hkey => hagree.lookup_eq hkey

end Redaction

end CocoonSit
