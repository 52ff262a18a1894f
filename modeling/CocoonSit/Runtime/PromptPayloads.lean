import CocoonSit.Memory.Ops
import CocoonSit.Prompts.CallSites
import CocoonSit.Workspace.Memory

/-!
# What prompts are told of a round

The prompt variables for the event, the merge, the wakeup and the provider's capabilities are built
from payloads of any shape, which a sanitiser rids of identifiers and of what concerns providers.
It compares its list of hidden keys as they are spelled, and takes a null for something it has
removed; and some values of an event and of a merge are copied past it.  `prompt_sound_iff` says for
which payloads nothing comes of this.
-/

namespace CocoonSit

namespace PromptPayloads

/-! ## The sanitiser -/

def promptHiddenKeys : List String :=
  ["id", "action_id", "api_key", "base_url", "character_id", "client_request_id", "debounce_key",
    "embedding_provider_id", "memory_chunk_id", "message_id", "memory_owner_user_id", "model_name",
    "output_name", "owner_user_id", "provider_id", "provider_kind", "sender_display_name",
    "sender_user_id", "source_cocoon_id", "source_message_id", "source_target_id",
    "superseded_by_task_id", "target_id"]

def promptProviderKeywords : List String :=
  ["provider", "model", "key", "secret", "token", "url", "endpoint"]

/-- The characters outside ASCII whose folding has a character of ASCII in it. -/
def casefoldTable : List (Char × String) :=
  [('\u00df', "ss"), ('\u0130', "i\u0307"), ('\u0149', "\u02bcn"), ('\u017f', "s"),
    ('\u01f0', "j\u030c"), ('\u1e96', "h\u0331"), ('\u1e97', "t\u0308"), ('\u1e98', "w\u030a"),
    ('\u1e99', "y\u030a"), ('\u1e9a', "a\u02be"), ('\u1e9e', "ss"), ('\u212a', "k"),
    ('\ufb00', "ff"), ('\ufb01', "fi"), ('\ufb02', "fl"), ('\ufb03', "ffi"), ('\ufb04', "ffl"),
    ('\ufb05', "st"), ('\ufb06', "st")]

/-- `str.casefold`, as far as ASCII can come of it. -/
def casefold (s : String) : String :=
  String.ofList (s.toList.flatMap fun c =>
    (casefoldTable.lookup c).elim [c.toLower] String.toList)

def looksLikeUuid (value : String) : Bool :=
  let cs := (strip value).toList
  cs.length = 36 && cs.zipIdx.all fun c =>
    if [8, 13, 18, 23].contains c.2 then c.1 = '-' else isHexDigit c.1

/-- The endings and keywords by which a folded key is recognised. -/
def hasBlockedForm (normalized : String) : Bool :=
  decide ("_id".toList <:+ normalized.toList) || decide ("_ids".toList <:+ normalized.toList) ||
    promptProviderKeywords.any fun token => decide (token.toList <:+: normalized.toList)

/-- The keys that `_sanitize_prompt_dict` skips. -/
def isSkipped (key : String) : Bool :=
  promptHiddenKeys.contains key || hasBlockedForm (casefold key)

def isNull : PromptValue → Bool
  | .null => true
  | _ => false

mutual

def sanitizePromptValue : PromptValue → PromptValue
  | .dict items => .dict (sanitizePromptDict items)
  | .list items => .list (sanitizePromptList items)
  | .str value => if looksLikeUuid value then .null else .str value
  | value => value

def sanitizePromptEntry : String × PromptValue → List (String × PromptValue)
  | (key, value) =>
    if isSkipped key || isNull (sanitizePromptValue value) then []
    else [(key, sanitizePromptValue value)]

def sanitizePromptDict : List (String × PromptValue) → List (String × PromptValue)
  | [] => []
  | entry :: entries => sanitizePromptEntry entry ++ sanitizePromptDict entries

def sanitizePromptList : List PromptValue → List PromptValue
  | [] => []
  | item :: items =>
    if isNull (sanitizePromptValue item) then sanitizePromptList items
    else sanitizePromptValue item :: sanitizePromptList items

end

/-! ## The payloads -/

/-- `{**items, **others}`. -/
def updateItems (items others : List (String × PromptValue)) : List (String × PromptValue) :=
  others.foldl (fun items other => setItem items other.1 other.2) items

/-- The entries under some keys that are not blank. -/
def pickItems (keys : List String) (items : List (String × PromptValue)) :
    List (String × PromptValue) :=
  (keys.map fun key => (key, lookupItem items key)).filter fun item => !item.2.isBlank

/-- `sender.get("nickname")` of a message's raw payload. -/
def senderNickname (imMetadata : List (String × PromptValue)) : PromptValue :=
  match lookupItem imMetadata "raw_payload" with
  | .dict rawPayload =>
    match lookupItem rawPayload "sender" with
    | .dict sender => lookupItem sender "nickname"
    | _ => .null
  | _ => .null

section Payloads

variable (pyStr : PromptValue → String)

/-- The dictionary under a key, where it is one and something has come of it. -/
def contextEntry (payload : List (String × PromptValue)) (key name : String)
    (context : List (String × PromptValue) → List (String × PromptValue)) :
    List (String × PromptValue) :=
  match lookupItem payload key with
  | .dict items => if (context items).isEmpty then [] else [(name, .dict (context items))]
  | _ => []

def imContext (imMetadata : List (String × PromptValue)) : List (String × PromptValue) :=
  pickItems ["platform", "conversation_kind", "occurred_at"] imMetadata ++
    if (senderNickname imMetadata).isNoneOrEmpty then []
    else [("sender_nickname", senderNickname imMetadata)]

def routeContext (routeMetadata : List (String × PromptValue)) : List (String × PromptValue) :=
  pickItems ["platform", "conversation_kind"] routeMetadata ++
    match lookupItem routeMetadata "tags" with
    | .list tags =>
      if (itemNames pyStr tags).isEmpty then []
      else [("tags", .list ((itemNames pyStr tags).map .str))]
    | _ => []

def compactImRuntimePayload (payload : List (String × PromptValue)) :
    List (String × PromptValue) :=
  contextEntry payload "im_metadata_json" "im_context" imContext ++
    contextEntry payload "im_route_metadata_json" "im_route_context" (routeContext pyStr)

/-- The keys that `_runtime_event_payload` pops. -/
def poppedKeys : List String := ["im_metadata_json", "im_route_metadata_json"]

def runtimeEventPayload (eventType : EventType) (target : Target)
    (payload : List (String × PromptValue)) : PromptValue :=
  .dict (updateItems
    (updateItems [("event_type", .str eventType.text), ("target_type", .str target.typeText)]
      ((sanitizePromptDict payload).filter fun item => !poppedKeys.contains item.1))
    (compactImRuntimePayload pyStr payload))

end Payloads

/-- The tags of a round, by the texts that refer to them. -/
abbrev TagCatalog := List (String × List (String × PromptValue))

/-- What is left of a value that is a text. -/
def strippedText : PromptValue → Option String
  | .str value => stripOrNone value
  | _ => none

def resolveTagName (tagPayload : List (String × PromptValue)) (tagRef : String) : String :=
  let named := match lookupItem tagPayload "meta_json" with
    | .dict metaJson => ["name", "title", "display_name", "label"].findSome? fun key =>
      strippedText (lookupItem metaJson key)
    | _ => none
  (named.or (strippedText (lookupItem tagPayload "tag_id"))).getD tagRef

/-- The name of the tag that a text refers to. -/
def tagNameOf (catalog : TagCatalog) (tagRef : String) : String :=
  strip (resolveTagName ((catalog.lookup tagRef).getD []) tagRef)

/-- The texts of a list, if it holds nothing else. -/
def texts : List PromptValue → Option (List String)
  | [] => some []
  | .str text :: items => (texts items).map fun rest => text :: rest
  | _ :: _ => none

/-- `_serialize_tag_names`; it raises for a reference that is no text. -/
def serializeTagNames (catalog : TagCatalog) (tagRefs : List PromptValue) :
    Option (List String) :=
  (texts tagRefs).map fun refs => (refs.map (tagNameOf catalog)).foldl
    (fun names name => if name = "" ∨ name ∈ names then names else names ++ [name]) []

/-- The source's state in a merge context. -/
def sourceState (payload : List (String × PromptValue)) : List (String × PromptValue) :=
  match lookupItem payload "source_state" with
  | .dict items => items
  | _ => []

def sourceTags (payload : List (String × PromptValue)) : List PromptValue :=
  match lookupItem (sourceState payload) "active_tags_json" with
  | .list tags => tags
  | _ => []

def sourceScore (payload : List (String × PromptValue)) : PromptValue :=
  ((sourceState payload).lookup "relation_score").getD (.int 0)

def sourcePersona (payload : List (String × PromptValue)) : PromptValue :=
  ((sourceState payload).lookup "persona_json").getD (.dict [])

def mergeContextPayload (catalog : TagCatalog) : PromptValue → Option PromptValue
  | .dict payload =>
    (serializeTagNames catalog (sourceTags payload)).map fun names =>
      .dict (setItem (sanitizePromptDict payload) "source_state" (.dict
        [("relation_score", sourceScore payload),
          ("persona_json", sanitizePromptValue (sourcePersona payload)),
          ("active_tags", .list (names.map .str))]))
  | payload => some payload

/-- What the variables of a round are built from. -/
structure Inputs where
  eventType : EventType
  target : Target
  payload : List (String × PromptValue) := []
  mergeContext : PromptValue := .null
  wakeupContext : PromptValue := .null
  includeWakeupContext : Bool := true
  providerCapabilities : Option (List (String × PromptValue)) := none
  tagCatalog : TagCatalog := []
  /-- `build_runtime_clock_payload`, which may raise. -/
  currentTime : Option PromptValue
  /-- The other variables. -/
  others : RuntimePrompt

/-- `build_runtime_prompt_variables`: what the variables are, unless it raises. -/
def runtimePrompt (pyStr : PromptValue → String) (inputs : Inputs) : Option RuntimePrompt :=
  inputs.currentTime.bind fun currentTime =>
    (mergeContextPayload inputs.tagCatalog inputs.mergeContext).map fun mergeContext =>
      { inputs.others with
        runtimeEvent := runtimeEventPayload pyStr inputs.eventType inputs.target inputs.payload
        currentTime := currentTime
        wakeupContext :=
          if inputs.includeWakeupContext then sanitizePromptValue inputs.wakeupContext else .null
        mergeContext := mergeContext
        providerCapabilities := .dict (sanitizePromptDict (inputs.providerCapabilities.getD [])) }

/-! ## What is asked of them -/

/-- The keys that no variable may have. -/
def isHidden (key : String) : Bool :=
  promptHiddenKeys.contains (casefold key) || hasBlockedForm (casefold key)

def isUuidText : PromptValue → Bool
  | .str value => looksLikeUuid value
  | _ => false

mutual

/-- No hidden key and no uuid, at any depth. -/
def Clean : PromptValue → Prop
  | .dict items => CleanDict items
  | .list items => CleanList items
  | .str value => looksLikeUuid value = false
  | _ => True

def CleanEntry : String × PromptValue → Prop
  | (key, value) => isHidden key = false ∧ Clean value

def CleanDict : List (String × PromptValue) → Prop
  | [] => True
  | entry :: entries => CleanEntry entry ∧ CleanDict entries

def CleanList : List PromptValue → Prop
  | [] => True
  | item :: items => Clean item ∧ CleanList items

end

mutual

/-- The value without its hidden entries and its uuids, and with everything else. -/
def kept : PromptValue → PromptValue
  | .dict items => .dict (keptDict items)
  | .list items => .list (keptList items)
  | .str value => if looksLikeUuid value then .null else .str value
  | value => value

def keptEntry : String × PromptValue → List (String × PromptValue)
  | (key, value) => if isHidden key || isUuidText value then [] else [(key, kept value)]

def keptDict : List (String × PromptValue) → List (String × PromptValue)
  | [] => []
  | entry :: entries => keptEntry entry ++ keptDict entries

def keptList : List PromptValue → List PromptValue
  | [] => []
  | item :: items => if isUuidText item then keptList items else kept item :: keptList items

end

/-- The values that the sanitiser is applied to. -/
def Inputs.sanitized (inputs : Inputs) : List PromptValue :=
  [.dict inputs.payload, .dict (inputs.providerCapabilities.getD [])] ++
    (if inputs.includeWakeupContext then [inputs.wakeupContext] else []) ++
    match inputs.mergeContext with
    | .dict payload => [.dict payload]
    | _ => []

/-- What is asked of the variables, and of the sanitiser. -/
structure Sound (pyStr : PromptValue → String) (inputs : Inputs) : Prop where
  clean : ∀ prompt, runtimePrompt pyStr inputs = some prompt →
    Clean prompt.runtimeEvent ∧ Clean prompt.mergeContext ∧ Clean prompt.wakeupContext ∧
      Clean prompt.providerCapabilities
  idempotent : ∀ value ∈ inputs.sanitized,
    sanitizePromptValue (sanitizePromptValue value) = sanitizePromptValue value
  keepsOthers : ∀ value ∈ inputs.sanitized, sanitizePromptValue value = kept value

/-! ## When it is so -/

mutual

/-- Outside what the sanitiser skips there are no hidden keys in another spelling, and no nulls. -/
def Tidy : PromptValue → Prop
  | .dict items => TidyDict items
  | .list items => TidyList items
  | _ => True

def TidyEntry : String × PromptValue → Prop
  | (key, value) => isSkipped key = true ∨ isUuidText value = true ∨
      (isHidden key = true ∧ isNull value = true) ∨
      (isHidden key = false ∧ isNull value = false ∧ Tidy value)

def TidyDict : List (String × PromptValue) → Prop
  | [] => True
  | entry :: entries => TidyEntry entry ∧ TidyDict entries

def TidyList : List PromptValue → Prop
  | [] => True
  | item :: items => (isNull item = false ∧ Tidy item) ∧ TidyList items

end

/-- What is copied past the sanitiser is clean as it is. -/
structure CopiedClean (pyStr : PromptValue → String) (inputs : Inputs) : Prop where
  message : ∀ imMetadata, lookupItem inputs.payload "im_metadata_json" = .dict imMetadata →
    (∀ key ∈ ["platform", "conversation_kind", "occurred_at"], Clean (lookupItem imMetadata key)) ∧
      Clean (senderNickname imMetadata)
  route : ∀ routeMetadata,
    lookupItem inputs.payload "im_route_metadata_json" = .dict routeMetadata →
    (∀ key ∈ ["platform", "conversation_kind"], Clean (lookupItem routeMetadata key)) ∧
      ∀ tags, lookupItem routeMetadata "tags" = .list tags →
        ∀ tag ∈ tags, looksLikeUuid (toText pyStr tag) = false
  merge : ∀ payload, inputs.mergeContext = .dict payload →
    Clean (sourceScore payload) ∧ ∀ tagRef, .str tagRef ∈ sourceTags payload →
      looksLikeUuid (tagNameOf inputs.tagCatalog tagRef) = false
  otherMerge : (∀ payload, inputs.mergeContext ≠ .dict payload) → Clean inputs.mergeContext

/-- Nothing raises: there is a time, and the active tags of a merge are texts. -/
def Builds (inputs : Inputs) : Prop :=
  inputs.currentTime.isSome = true ∧ ∀ payload, inputs.mergeContext = .dict payload →
    ∀ tagRef ∈ sourceTags payload, ∃ text, tagRef = .str text

/-! ## The sanitiser's result -/

lemma isHidden_of_isSkipped {key : String} (h : isSkipped key = true) : isHidden key = true := by
  have hfolded : ∀ key ∈ promptHiddenKeys, casefold key ∈ promptHiddenKeys := by decide +kernel
  unfold isSkipped at h
  unfold isHidden
  rw [Bool.or_eq_true] at h ⊢
  refine h.imp_left fun hmem => ?_
  exact List.contains_iff_mem.mpr (hfolded key (List.contains_iff_mem.mp hmem))

lemma isNull_sanitizePromptValue {value : PromptValue} :
    isNull (sanitizePromptValue value) = (isNull value || isUuidText value) := by
  cases value with
  | str value =>
    rw [sanitizePromptValue, isUuidText]
    cases looksLikeUuid value <;> rfl
  | dict items => rw [sanitizePromptValue]; rfl
  | list items => rw [sanitizePromptValue]; rfl
  | null => rfl
  | bool value => rfl
  | int value => rfl
  | float value => rfl

lemma eq_null_of_isNull {value : PromptValue} (h : isNull value = true) : value = .null := by
  cases value <;> first | rfl | cases h

lemma of_mem_sanitizePromptDict {entries : List (String × PromptValue)}
    {entry : String × PromptValue} (h : entry ∈ sanitizePromptDict entries) :
    isSkipped entry.1 = false ∧ isNull entry.2 = false := by
  induction entries with
  | nil => cases h
  | cons first entries ih =>
    rw [sanitizePromptDict, List.mem_append] at h
    rcases h with h | h
    · obtain ⟨key, value⟩ := first
      rw [sanitizePromptEntry] at h
      split at h
      · cases h
      · next hkeep =>
        rw [List.mem_singleton.mp h]
        simpa [not_or] using hkeep
    · exact ih h

lemma isNull_of_mem_sanitizePromptList {items : List PromptValue} {item : PromptValue}
    (h : item ∈ sanitizePromptList items) : isNull item = false := by
  induction items with
  | nil => cases h
  | cons first items ih =>
    rw [sanitizePromptList] at h
    split at h
    · exact ih h
    · next hkeep =>
      rcases List.mem_cons.mp h with rfl | h
      · simpa using hkeep
      · exact ih h

lemma isHidden_of_mem_keptDict {entries : List (String × PromptValue)}
    {entry : String × PromptValue} (h : entry ∈ keptDict entries) : isHidden entry.1 = false := by
  induction entries with
  | nil => cases h
  | cons first entries ih =>
    rw [keptDict, List.mem_append] at h
    rcases h with h | h
    · obtain ⟨key, value⟩ := first
      rw [keptEntry] at h
      split at h
      · cases h
      · next hkeep =>
        rw [List.mem_singleton.mp h]
        simp only [Bool.or_eq_true, not_or, Bool.not_eq_true] at hkeep
        exact hkeep.1
    · exact ih h

mutual

lemma sanitizePromptValue_idem : ∀ value,
    sanitizePromptValue (sanitizePromptValue value) = sanitizePromptValue value
  | .dict items => by
      rw [sanitizePromptValue, sanitizePromptValue, sanitizePromptDict_idem items]
  | .list items => by
      rw [sanitizePromptValue, sanitizePromptValue, sanitizePromptList_idem items]
  | .str value => by
      rw [sanitizePromptValue]
      split
      · rfl
      · next hkeep => rw [sanitizePromptValue, if_neg hkeep]
  | .null => rfl
  | .bool _ => rfl
  | .int _ => rfl
  | .float _ => rfl

lemma sanitizePromptDict_idem : ∀ entries,
    sanitizePromptDict (sanitizePromptDict entries) = sanitizePromptDict entries
  | [] => rfl
  | (key, value) :: entries => by
      rw [sanitizePromptDict, sanitizePromptEntry]
      split
      · exact sanitizePromptDict_idem entries
      · next hkeep =>
        rw [List.singleton_append, sanitizePromptDict, sanitizePromptEntry,
          sanitizePromptValue_idem value, if_neg hkeep, sanitizePromptDict_idem entries,
          List.singleton_append]

lemma sanitizePromptList_idem : ∀ items,
    sanitizePromptList (sanitizePromptList items) = sanitizePromptList items
  | [] => rfl
  | item :: items => by
      rw [sanitizePromptList]
      split
      · exact sanitizePromptList_idem items
      · next hkeep =>
        rw [sanitizePromptList, sanitizePromptValue_idem item, if_neg hkeep,
          sanitizePromptList_idem items]

end

mutual

lemma clean_kept (value : PromptValue) : Clean (kept value) := by
  cases value with
  | dict items =>
    rw [kept, Clean]
    exact cleanDict_keptDict items
  | list items =>
    rw [kept, Clean]
    exact cleanList_keptList items
  | str value =>
    rw [kept]
    cases hvalue : looksLikeUuid value with
    | true =>
      rw [if_pos rfl]
      trivial
    | false =>
      rw [if_neg Bool.false_ne_true, Clean]
      exact hvalue
  | null => trivial
  | bool _ => trivial
  | int _ => trivial
  | float _ => trivial

lemma cleanDict_keptDict : ∀ entries, CleanDict (keptDict entries)
  | [] => trivial
  | (key, value) :: entries => by
      rw [keptDict, keptEntry]
      split
      · exact cleanDict_keptDict entries
      · next hkeep =>
        simp only [Bool.or_eq_true, not_or, Bool.not_eq_true] at hkeep
        exact ⟨⟨hkeep.1, clean_kept value⟩, cleanDict_keptDict entries⟩

lemma cleanList_keptList : ∀ items, CleanList (keptList items)
  | [] => trivial
  | item :: items => by
      rw [keptList]
      split
      · exact cleanList_keptList items
      · exact ⟨clean_kept item, cleanList_keptList items⟩

end

/-! ## Where it keeps what it should -/

lemma tidyEntry_of_eq {key : String} {value : PromptValue} {entries : List (String × PromptValue)}
    (hvalue : sanitizePromptValue value = kept value → Tidy value)
    (heq : sanitizePromptEntry (key, value) ++ sanitizePromptDict entries =
      keptEntry (key, value) ++ keptDict entries) :
    TidyEntry (key, value) ∧ sanitizePromptDict entries = keptDict entries := by
  rw [sanitizePromptEntry, keptEntry, isNull_sanitizePromptValue] at heq
  rw [TidyEntry]
  cases hskipped : isSkipped key with
  | true =>
    rw [isHidden_of_isSkipped hskipped, hskipped] at heq
    exact ⟨.inl rfl, heq⟩
  | false =>
    rw [hskipped] at heq
    cases huuid : isUuidText value with
    | true =>
      rw [huuid] at heq
      simp only [Bool.or_true, if_true, List.nil_append] at heq
      exact ⟨.inr (.inl rfl), heq⟩
    | false =>
      rw [huuid] at heq
      cases hhidden : isHidden key <;> cases hnull : isNull value <;>
        simp only [hhidden, hnull, Bool.or_false, Bool.or_true, if_true,
          Bool.false_eq_true, if_false, List.nil_append, List.singleton_append] at heq
      · -- the entry is kept by both
        obtain ⟨hhead, hrest⟩ := List.cons.inj heq
        exact ⟨.inr (.inr (.inr ⟨rfl, rfl, hvalue (Prod.mk.inj hhead).2⟩)), hrest⟩
      · -- a null that the sanitiser drops
        have hmem : (key, kept value) ∈ sanitizePromptDict entries := by
          rw [heq]
          exact List.mem_cons_self
        rw [eq_null_of_isNull hnull] at hmem
        cases (of_mem_sanitizePromptDict hmem).2
      · -- a hidden key that the sanitiser lets through
        have hmem : (key, sanitizePromptValue value) ∈ keptDict entries := by
          rw [← heq]
          exact List.mem_cons_self
        rw [isHidden_of_mem_keptDict hmem] at hhidden
        cases hhidden
      · exact ⟨.inr (.inr (.inl ⟨rfl, rfl⟩)), heq⟩

lemma eq_of_tidyEntry {key : String} {value : PromptValue} (htidy : TidyEntry (key, value))
    (hvalue : Tidy value → sanitizePromptValue value = kept value) :
    sanitizePromptEntry (key, value) = keptEntry (key, value) := by
  rw [sanitizePromptEntry, keptEntry, isNull_sanitizePromptValue]
  rw [TidyEntry] at htidy
  rcases htidy with hskipped | huuid | ⟨hhidden, hnull⟩ | ⟨hhidden, hnull, htidy⟩
  · rw [hskipped, isHidden_of_isSkipped hskipped]
    rfl
  · rw [huuid]
    simp
  · rw [hhidden, hnull]
    simp
  · have hskipped : isSkipped key = false := by
      cases hskipped : isSkipped key with
      | false => rfl
      | true => rw [isHidden_of_isSkipped hskipped] at hhidden; cases hhidden
    rw [hskipped, hhidden, hnull, hvalue htidy]
    simp

lemma sanitizePromptList_cons_iff {item : PromptValue} {items : List PromptValue}
    (hitem : sanitizePromptValue item = kept item ↔ Tidy item) :
    sanitizePromptList (item :: items) = keptList (item :: items) ↔
      (isNull item = false ∧ Tidy item) ∧ sanitizePromptList items = keptList items := by
  rw [sanitizePromptList, keptList, isNull_sanitizePromptValue]
  cases huuid : isUuidText item with
  | true =>
    obtain ⟨value, rfl⟩ : ∃ value, item = .str value := by
      cases item <;> first | exact ⟨_, rfl⟩ | cases huuid
    rw [Bool.or_true, if_pos rfl, if_pos rfl]
    exact (and_iff_right ⟨rfl, trivial⟩).symm
  | false =>
    cases hnull : isNull item with
    | true =>
      -- a null that the sanitiser drops
      rw [eq_null_of_isNull hnull]
      refine iff_of_false (fun heq => ?_) fun h => nomatch h.1.1
      have hmem : kept .null ∈ sanitizePromptList items := by
        rw [Bool.true_or, if_pos rfl] at heq
        rw [heq]
        exact List.mem_cons_self
      cases isNull_of_mem_sanitizePromptList hmem
    | false =>
      rw [Bool.or_false, if_neg Bool.false_ne_true, if_neg Bool.false_ne_true,
        List.cons.injEq, hitem, and_iff_right rfl]

mutual

lemma sanitizePromptValue_eq_kept_iff : ∀ value,
    sanitizePromptValue value = kept value ↔ Tidy value
  | .dict items => by
      rw [sanitizePromptValue, kept, Tidy, PromptValue.dict.injEq]
      exact sanitizePromptDict_eq_keptDict_iff items
  | .list items => by
      rw [sanitizePromptValue, kept, Tidy, PromptValue.list.injEq]
      exact sanitizePromptList_eq_keptList_iff items
  | .str value => by
      rw [sanitizePromptValue, kept]
      exact iff_of_true rfl trivial
  | .null => iff_of_true rfl trivial
  | .bool _ => iff_of_true rfl trivial
  | .int _ => iff_of_true rfl trivial
  | .float _ => iff_of_true rfl trivial

lemma sanitizePromptDict_eq_keptDict_iff : ∀ entries,
    sanitizePromptDict entries = keptDict entries ↔ TidyDict entries
  | [] => iff_of_true rfl trivial
  | (key, value) :: entries => by
      rw [sanitizePromptDict, keptDict, TidyDict]
      constructor
      · intro heq
        obtain ⟨htidy, hrest⟩ :=
          tidyEntry_of_eq (sanitizePromptValue_eq_kept_iff value).mp heq
        exact ⟨htidy, (sanitizePromptDict_eq_keptDict_iff entries).mp hrest⟩
      · rintro ⟨htidy, hrest⟩
        rw [eq_of_tidyEntry htidy (sanitizePromptValue_eq_kept_iff value).mpr,
          (sanitizePromptDict_eq_keptDict_iff entries).mpr hrest]

lemma sanitizePromptList_eq_keptList_iff : ∀ items,
    sanitizePromptList items = keptList items ↔ TidyList items
  | [] => iff_of_true rfl trivial
  | item :: items => by
      rw [TidyList, ← sanitizePromptList_eq_keptList_iff items]
      exact sanitizePromptList_cons_iff (sanitizePromptValue_eq_kept_iff item)

end

/-! ## Clean dictionaries -/

lemma cleanDict_iff {entries : List (String × PromptValue)} :
    CleanDict entries ↔ ∀ entry ∈ entries, isHidden entry.1 = false ∧ Clean entry.2 := by
  induction entries with
  | nil => exact iff_of_true trivial fun _ h => absurd h List.not_mem_nil
  | cons entry entries ih =>
    obtain ⟨key, value⟩ := entry
    rw [CleanDict, CleanEntry, ih, List.forall_mem_cons]

lemma cleanDict_append {entries others : List (String × PromptValue)} :
    CleanDict (entries ++ others) ↔ CleanDict entries ∧ CleanDict others := by
  rw [cleanDict_iff, cleanDict_iff, cleanDict_iff, List.forall_mem_append]

lemma cleanList_texts {texts : List String} :
    CleanList (texts.map .str) ↔ ∀ text ∈ texts, looksLikeUuid text = false := by
  induction texts with
  | nil => exact iff_of_true trivial fun _ h => absurd h List.not_mem_nil
  | cons text texts ih =>
    rw [List.map_cons, CleanList, ih, List.forall_mem_cons]
    exact and_congr_left' Iff.rfl

lemma looksLikeUuid_strip (value : String) : looksLikeUuid (strip value) = looksLikeUuid value := by
  unfold looksLikeUuid
  rw [strip_strip]

lemma clean_of_isBlank {value : PromptValue} (h : value.isBlank = true) : Clean value := by
  cases value with
  | str value =>
    rw [Clean, of_decide_eq_true h]
    rfl
  | list items => rw [List.isEmpty_iff.mp h]; trivial
  | dict items => rw [List.isEmpty_iff.mp h]; trivial
  | null => trivial
  | bool value => trivial
  | int value => trivial
  | float value => trivial

lemma clean_of_isNoneOrEmpty {value : PromptValue} (h : value.isNoneOrEmpty = true) :
    Clean value := by
  cases value with
  | str value =>
    rw [Clean, of_decide_eq_true h]
    rfl
  | list items => cases h
  | dict items => cases h
  | null => trivial
  | bool value => trivial
  | int value => trivial
  | float value => trivial

lemma mem_setItem {items : List (String × PromptValue)} {key : String} {value : PromptValue}
    {entry : String × PromptValue} :
    entry ∈ setItem items key value ↔ entry = (key, value) ∨ entry ∈ items ∧ entry.1 ≠ key := by
  unfold setItem
  split
  · next hkey =>
    obtain ⟨first, hfirst, hname⟩ := List.mem_map.mp (List.contains_iff_mem.mp hkey)
    rw [List.mem_map]
    constructor
    · rintro ⟨item, hitem, rfl⟩
      by_cases hsame : item.1 = key
      · rw [if_pos hsame]
        exact .inl rfl
      · rw [if_neg hsame]
        exact .inr ⟨hitem, hsame⟩
    · rintro (rfl | ⟨hentry, hother⟩)
      · exact ⟨first, hfirst, if_pos hname⟩
      · exact ⟨entry, hentry, if_neg hother⟩
  · next hkey =>
    have hnot : ∀ item ∈ items, item.1 ≠ key := fun item hitem heq =>
      hkey (List.contains_iff_mem.mpr (List.mem_map.mpr ⟨item, hitem, heq⟩))
    rw [List.mem_append, List.mem_singleton, or_comm]
    exact or_congr_right ⟨fun h => ⟨h, hnot entry h⟩, And.left⟩

lemma mem_of_mem_updateItems {items others : List (String × PromptValue)}
    {entry : String × PromptValue} (h : entry ∈ updateItems items others) :
    entry ∈ others ∨ entry ∈ items := by
  induction others generalizing items with
  | nil => exact .inr h
  | cons other others ih =>
    rcases ih h with h | h
    · exact .inl (List.mem_cons_of_mem _ h)
    · rcases mem_setItem.mp h with rfl | ⟨h, -⟩
      · exact .inl List.mem_cons_self
      · exact .inr h

lemma mem_updateItems {items others : List (String × PromptValue)} {entry : String × PromptValue}
    (hkeys : (others.map Prod.fst).Nodup)
    (h : entry ∈ others ∨ entry ∈ items ∧ entry.1 ∉ others.map Prod.fst) :
    entry ∈ updateItems items others := by
  induction others generalizing items with
  | nil => exact (h.resolve_left List.not_mem_nil).1
  | cons other others ih =>
    obtain ⟨hother, hkeys⟩ := List.nodup_cons.mp hkeys
    refine ih hkeys ?_
    rcases h with h | ⟨h, hnot⟩
    · rcases List.mem_cons.mp h with rfl | h
      · exact .inr ⟨mem_setItem.mpr (.inl rfl), hother⟩
      · exact .inl h
    · rw [List.map_cons, List.mem_cons, not_or] at hnot
      exact .inr ⟨mem_setItem.mpr (.inr ⟨h, hnot.1⟩), hnot.2⟩

lemma tidyDict_iff {entries : List (String × PromptValue)} :
    TidyDict entries ↔ ∀ entry ∈ entries, TidyEntry entry := by
  induction entries with
  | nil => exact iff_of_true trivial fun _ h => absurd h List.not_mem_nil
  | cons entry entries ih => rw [TidyDict, ih, List.forall_mem_cons]

lemma clean_sanitizePromptValue {value : PromptValue} (h : Tidy value) :
    Clean (sanitizePromptValue value) :=
  (sanitizePromptValue_eq_kept_iff value).mpr h ▸ clean_kept value

lemma cleanDict_sanitizePromptDict {entries : List (String × PromptValue)}
    (h : TidyDict entries) : CleanDict (sanitizePromptDict entries) :=
  (sanitizePromptDict_eq_keptDict_iff entries).mpr h ▸ cleanDict_keptDict entries

lemma tidy_of_tidyEntry {key : String} {value : PromptValue} (h : TidyEntry (key, value))
    (hkey : isHidden key = false) : isUuidText value = true ∨ Tidy value := by
  rw [TidyEntry] at h
  rcases h with hskipped | huuid | ⟨hhidden, -⟩ | ⟨-, -, htidy⟩
  · rw [isHidden_of_isSkipped hskipped] at hkey
    cases hkey
  · exact .inl huuid
  · rw [hhidden] at hkey
    cases hkey
  · exact .inr htidy

lemma mem_of_lookup {items : List (String × PromptValue)} {key : String} {value : PromptValue}
    (h : items.lookup key = some value) : (key, value) ∈ items := by
  obtain ⟨before, after, rfl, -⟩ := List.lookup_eq_some_iff.mp h
  exact List.mem_append_right _ List.mem_cons_self

/-! ## The event -/

section Event

variable {pyStr : PromptValue → String} {payload : List (String × PromptValue)}

lemma cleanDict_pickItems {keys : List String} {items : List (String × PromptValue)}
    (hkeys : ∀ key ∈ keys, isHidden key = false) :
    CleanDict (pickItems keys items) ↔ ∀ key ∈ keys, Clean (lookupItem items key) := by
  unfold pickItems
  rw [cleanDict_iff]
  simp only [List.mem_filter, List.mem_map, Bool.not_eq_true', and_imp, forall_exists_index]
  constructor
  · intro h key hkey
    cases hblank : (lookupItem items key).isBlank with
    | true => exact clean_of_isBlank hblank
    | false => exact (h _ key hkey rfl hblank).2
  · rintro h _ key hkey rfl -
    exact ⟨hkeys key hkey, h key hkey⟩

lemma cleanDict_imContext {imMetadata : List (String × PromptValue)} :
    CleanDict (imContext imMetadata) ↔
      (∀ key ∈ ["platform", "conversation_kind", "occurred_at"],
        Clean (lookupItem imMetadata key)) ∧ Clean (senderNickname imMetadata) := by
  unfold imContext
  rw [cleanDict_append, cleanDict_pickItems (by decide +kernel)]
  refine and_congr_right fun _ => ?_
  cases hnone : (senderNickname imMetadata).isNoneOrEmpty with
  | true => exact iff_of_true trivial (clean_of_isNoneOrEmpty hnone)
  | false =>
    have hkey : isHidden "sender_nickname" = false := by decide +kernel
    rw [if_neg Bool.false_ne_true, cleanDict_iff]
    simp [hkey]

lemma cleanDict_routeContext {routeMetadata : List (String × PromptValue)} :
    CleanDict (routeContext pyStr routeMetadata) ↔
      (∀ key ∈ ["platform", "conversation_kind"], Clean (lookupItem routeMetadata key)) ∧
        ∀ tags, lookupItem routeMetadata "tags" = .list tags →
          ∀ tag ∈ tags, looksLikeUuid (toText pyStr tag) = false := by
  unfold routeContext
  rw [cleanDict_append, cleanDict_pickItems (by decide +kernel)]
  refine and_congr_right fun _ => ?_
  split
  · next tags htags =>
    have hkey : isHidden "tags" = false := by decide +kernel
    have hnames : CleanList ((itemNames pyStr tags).map .str) ↔
        ∀ tag ∈ tags, looksLikeUuid (toText pyStr tag) = false := by
      rw [cleanList_texts]
      unfold itemNames
      constructor
      · intro h tag htag
        rw [← looksLikeUuid_strip]
        by_cases hblank : strip (toText pyStr tag) = ""
        · rw [hblank]
          rfl
        · exact h _ (List.mem_filter.mpr ⟨List.mem_map_of_mem htag, by simpa using hblank⟩)
      · intro h name hname
        obtain ⟨tag, htag, rfl⟩ := List.mem_map.mp (List.mem_filter.mp hname).1
        rw [looksLikeUuid_strip]
        exact h tag htag
    have htags' : (∀ tags', lookupItem routeMetadata "tags" = .list tags' →
        ∀ tag ∈ tags', looksLikeUuid (toText pyStr tag) = false) ↔
          ∀ tag ∈ tags, looksLikeUuid (toText pyStr tag) = false := by
      rw [htags]
      exact ⟨fun h => h tags rfl, fun h tags' heq => by cases heq; exact h⟩
    rw [htags', ← hnames]
    split
    · next hempty =>
      rw [List.isEmpty_iff.mp hempty]
      exact iff_of_true trivial trivial
    · rw [cleanDict_iff]
      simp [hkey, Clean]
  · next hother => exact iff_of_true trivial fun tags heq => absurd heq (hother tags)

lemma cleanDict_contextEntry {key name : String}
    {context : List (String × PromptValue) → List (String × PromptValue)}
    (hname : isHidden name = false) :
    CleanDict (contextEntry payload key name context) ↔
      ∀ items, lookupItem payload key = .dict items → CleanDict (context items) := by
  unfold contextEntry
  split
  · next items hitems =>
    rw [hitems]
    have hdict : (∀ items', PromptValue.dict items = .dict items' → CleanDict (context items')) ↔
        CleanDict (context items) :=
      ⟨fun h => h items rfl, fun h items' heq => by cases heq; exact h⟩
    rw [hdict]
    split
    · next hempty =>
      rw [List.isEmpty_iff.mp hempty]
    · rw [cleanDict_iff]
      simp [hname, Clean]
  · next hother => exact iff_of_true trivial fun items heq => absurd heq (hother items)

lemma keys_contextEntry (payload : List (String × PromptValue)) (key name : String)
    (context : List (String × PromptValue) → List (String × PromptValue)) :
    (contextEntry payload key name context).map Prod.fst = [] ∨
      (contextEntry payload key name context).map Prod.fst = [name] := by
  unfold contextEntry
  split
  · split
    · exact .inl rfl
    · exact .inr rfl
  · exact .inl rfl

lemma nodup_compactImRuntimePayload :
    ((compactImRuntimePayload pyStr payload).map Prod.fst).Nodup := by
  unfold compactImRuntimePayload
  rw [List.map_append]
  rcases keys_contextEntry payload "im_metadata_json" "im_context" imContext with h | h <;>
    rcases keys_contextEntry payload "im_route_metadata_json" "im_route_context"
      (routeContext pyStr) with h' | h' <;> rw [h, h'] <;> decide

lemma clean_runtimeEventPayload_iff (pyStr : PromptValue → String) (eventType : EventType)
    (target : Target) (htidy : TidyDict payload) :
    Clean (runtimeEventPayload pyStr eventType target payload) ↔
      (∀ imMetadata, lookupItem payload "im_metadata_json" = .dict imMetadata →
        (∀ key ∈ ["platform", "conversation_kind", "occurred_at"],
          Clean (lookupItem imMetadata key)) ∧ Clean (senderNickname imMetadata)) ∧
      ∀ routeMetadata, lookupItem payload "im_route_metadata_json" = .dict routeMetadata →
        (∀ key ∈ ["platform", "conversation_kind"], Clean (lookupItem routeMetadata key)) ∧
          ∀ tags, lookupItem routeMetadata "tags" = .list tags →
            ∀ tag ∈ tags, looksLikeUuid (toText pyStr tag) = false := by
  have hcompact : CleanDict (compactImRuntimePayload pyStr payload) ↔
      (∀ imMetadata, lookupItem payload "im_metadata_json" = .dict imMetadata →
        CleanDict (imContext imMetadata)) ∧
      ∀ routeMetadata, lookupItem payload "im_route_metadata_json" = .dict routeMetadata →
        CleanDict (routeContext pyStr routeMetadata) := by
    unfold compactImRuntimePayload
    rw [cleanDict_append, cleanDict_contextEntry (by decide +kernel),
      cleanDict_contextEntry (by decide +kernel)]
  simp only [cleanDict_imContext, cleanDict_routeContext] at hcompact
  rw [← hcompact, runtimeEventPayload, Clean, cleanDict_iff, cleanDict_iff]
  constructor
  · exact fun h entry hentry =>
      h entry (mem_updateItems nodup_compactImRuntimePayload (.inl hentry))
  · intro h entry hentry
    rcases mem_of_mem_updateItems hentry with hentry | hentry
    · exact h entry hentry
    rcases mem_of_mem_updateItems hentry with hentry | hentry
    · exact cleanDict_iff.mp (cleanDict_sanitizePromptDict htidy) entry
        (List.mem_of_mem_filter hentry)
    · have htype : isHidden "event_type" = false ∧ isHidden "target_type" = false := by
        decide +kernel
      have htext : looksLikeUuid eventType.text = false ∧
          looksLikeUuid target.typeText = false := by
        refine ⟨?_, ?_⟩
        · cases eventType <;> decide +kernel
        · have hkinds : looksLikeUuid "cocoon" = false ∧ looksLikeUuid "chat_group" = false := by
            decide +kernel
          cases target with
          | cocoon id => exact hkinds.1
          | chatGroup id => exact hkinds.2
      rcases List.mem_cons.mp hentry with rfl | hentry
      · exact ⟨htype.1, htext.1⟩
      · rw [List.mem_singleton.mp hentry]
        exact ⟨htype.2, htext.2⟩

end Event

/-! ## The merge -/

section Merge

variable {catalog : TagCatalog} {payload : List (String × PromptValue)}

lemma texts_eq_some {items : List PromptValue} {refs : List String}
    (h : texts items = some refs) : items = refs.map .str := by
  induction items generalizing refs with
  | nil =>
    cases h
    rfl
  | cons item items ih =>
    cases item with
    | str text =>
      obtain ⟨rest, hrest, rfl⟩ := Option.map_eq_some_iff.mp h
      rw [ih hrest, List.map_cons]
    | null => cases h
    | bool value => cases h
    | int value => cases h
    | float value => cases h
    | list values => cases h
    | dict values => cases h

lemma isSome_texts {items : List PromptValue} :
    (texts items).isSome = true ↔ ∀ item ∈ items, ∃ text, item = .str text := by
  constructor
  · intro h
    obtain ⟨refs, hrefs⟩ := Option.isSome_iff_exists.mp h
    rw [texts_eq_some hrefs]
    intro item hitem
    obtain ⟨text, -, rfl⟩ := List.mem_map.mp hitem
    exact ⟨text, rfl⟩
  · intro h
    induction items with
    | nil => rfl
    | cons item items ih =>
      obtain ⟨⟨text, rfl⟩, hrest⟩ := List.forall_mem_cons.mp h
      rw [texts, Option.isSome_map]
      exact ih hrest

lemma mem_foldl_names {names found : List String} {name : String} :
    name ∈ names.foldl
        (fun names name => if name = "" ∨ name ∈ names then names else names ++ [name]) found ↔
      name ∈ found ∨ name ∈ names ∧ name ≠ "" := by
  induction names generalizing found with
  | nil => simp
  | cons first names ih =>
    rw [List.foldl_cons, ih, List.mem_cons]
    split
    · next hskip =>
      constructor
      · exact Or.imp_right fun h => ⟨.inr h.1, h.2⟩
      · rintro (h | ⟨rfl | h, hne⟩)
        · exact .inl h
        · exact .inl (hskip.resolve_left hne)
        · exact .inr ⟨h, hne⟩
    · next hnew =>
      rw [not_or] at hnew
      rw [List.mem_append, List.mem_singleton]
      constructor
      · rintro ((h | rfl) | ⟨h, hne⟩)
        · exact .inl h
        · exact .inr ⟨.inl rfl, hnew.1⟩
        · exact .inr ⟨.inr h, hne⟩
      · rintro (h | ⟨rfl | h, hne⟩)
        · exact .inl (.inl h)
        · exact .inl (.inr rfl)
        · exact .inr ⟨h, hne⟩

lemma cleanList_serializeTagNames {tagRefs : List PromptValue} {names : List String}
    (h : serializeTagNames catalog tagRefs = some names) :
    CleanList (names.map .str) ↔
      ∀ tagRef, .str tagRef ∈ tagRefs → looksLikeUuid (tagNameOf catalog tagRef) = false := by
  obtain ⟨refs, hrefs, rfl⟩ := Option.map_eq_some_iff.mp h
  rw [cleanList_texts, texts_eq_some hrefs]
  constructor
  · intro hclean tagRef hmem
    obtain ⟨ref, href, heq⟩ := List.mem_map.mp hmem
    obtain rfl : ref = tagRef := PromptValue.str.inj heq
    by_cases hblank : tagNameOf catalog ref = ""
    · rw [hblank]
      rfl
    · exact hclean _ (mem_foldl_names.mpr (.inr ⟨List.mem_map_of_mem href, hblank⟩))
  · intro hclean name hname
    obtain ⟨hname, -⟩ := (mem_foldl_names.mp hname).resolve_left List.not_mem_nil
    obtain ⟨ref, href, rfl⟩ := List.mem_map.mp hname
    exact hclean ref (List.mem_map_of_mem href)

lemma clean_sourcePersona (htidy : TidyDict payload) :
    Clean (sanitizePromptValue (sourcePersona payload)) := by
  have hstate : TidyDict (sourceState payload) := by
    unfold sourceState lookupItem
    cases hlookup : payload.lookup "source_state" with
    | none => trivial
    | some state =>
      have hentry := tidyDict_iff.mp htidy _ (mem_of_lookup hlookup)
      rw [Option.getD_some]
      split
      · rcases tidy_of_tidyEntry hentry (by decide +kernel) with huuid | htidy
        · cases huuid
        · exact htidy
      · trivial
  unfold sourcePersona
  cases hlookup : (sourceState payload).lookup "persona_json" with
  | none => trivial
  | some persona =>
    have hentry := tidyDict_iff.mp hstate _ (mem_of_lookup hlookup)
    rw [Option.getD_some]
    rcases tidy_of_tidyEntry hentry (by decide +kernel) with huuid | htidy
    · have hnull : isNull (sanitizePromptValue persona) = true := by
        rw [isNull_sanitizePromptValue, huuid, Bool.or_true]
      rw [eq_null_of_isNull hnull]
      trivial
    · exact clean_sanitizePromptValue htidy

lemma clean_mergeContextPayload_iff {merged : PromptValue} (htidy : TidyDict payload)
    (h : mergeContextPayload catalog (.dict payload) = some merged) :
    Clean merged ↔ Clean (sourceScore payload) ∧ ∀ tagRef, .str tagRef ∈ sourceTags payload →
      looksLikeUuid (tagNameOf catalog tagRef) = false := by
  obtain ⟨names, hnames, rfl⟩ := Option.map_eq_some_iff.mp h
  have hkeys : isHidden "source_state" = false ∧ isHidden "relation_score" = false ∧
      isHidden "persona_json" = false ∧ isHidden "active_tags" = false := by decide +kernel
  obtain ⟨hstate, hscore, hpersona, htags⟩ := hkeys
  rw [← cleanList_serializeTagNames hnames, Clean, cleanDict_iff]
  constructor
  · intro hclean
    have hentry := (hclean _ (mem_setItem.mpr (.inl rfl))).2
    rw [Clean, cleanDict_iff] at hentry
    exact ⟨(hentry _ List.mem_cons_self).2, (hentry ("active_tags", .list (names.map .str))
      (by simp)).2⟩
  · rintro ⟨hcleanScore, hcleanTags⟩ entry hentry
    rcases mem_setItem.mp hentry with rfl | ⟨hentry, -⟩
    · exact ⟨hstate, ⟨hscore, hcleanScore⟩, ⟨hpersona, clean_sourcePersona htidy⟩,
        ⟨htags, hcleanTags⟩, trivial⟩
    · exact cleanDict_iff.mp (cleanDict_sanitizePromptDict htidy) entry hentry

lemma mergeContextPayload_of_ne_dict {value : PromptValue} (h : ∀ payload, value ≠ .dict payload) :
    mergeContextPayload catalog value = some value := by
  cases value with
  | dict payload => exact absurd rfl (h payload)
  | null => rfl
  | bool value => rfl
  | int value => rfl
  | float value => rfl
  | str value => rfl
  | list values => rfl

end Merge

/-! ## All variables -/

section All

variable {pyStr : PromptValue → String} {inputs : Inputs}

lemma builds_iff : Builds inputs ↔ (runtimePrompt pyStr inputs).isSome = true := by
  have hmerge : (∀ payload, inputs.mergeContext = .dict payload →
      ∀ tagRef ∈ sourceTags payload, ∃ text, tagRef = .str text) ↔
        (mergeContextPayload inputs.tagCatalog inputs.mergeContext).isSome = true := by
    by_cases hdict : ∃ payload, inputs.mergeContext = .dict payload
    · obtain ⟨payload, hpayload⟩ := hdict
      rw [hpayload, mergeContextPayload, Option.isSome_map, serializeTagNames, Option.isSome_map,
        isSome_texts]
      exact ⟨fun h => h payload rfl, fun h payload' heq => by cases heq; exact h⟩
    · push Not at hdict
      rw [mergeContextPayload_of_ne_dict hdict]
      exact iff_of_true (fun payload heq => absurd heq (hdict payload)) rfl
  rw [Builds, hmerge, runtimePrompt]
  cases inputs.currentTime with
  | none => simp
  | some currentTime => simp

lemma clean_iff_copiedClean (htidy : ∀ value ∈ inputs.sanitized, Tidy value)
    {prompt : RuntimePrompt} (hprompt : runtimePrompt pyStr inputs = some prompt) :
    (Clean prompt.runtimeEvent ∧ Clean prompt.mergeContext ∧ Clean prompt.wakeupContext ∧
      Clean prompt.providerCapabilities) ↔ CopiedClean pyStr inputs := by
  obtain ⟨currentTime, -, hmap⟩ := Option.bind_eq_some_iff.mp hprompt
  obtain ⟨merged, hmerged, rfl⟩ := Option.map_eq_some_iff.mp hmap
  have hpayload : TidyDict inputs.payload :=
    htidy (.dict inputs.payload) (by simp [Inputs.sanitized])
  have hcapabilities : Clean (.dict (sanitizePromptDict (inputs.providerCapabilities.getD []))) :=
    cleanDict_sanitizePromptDict (htidy (.dict (inputs.providerCapabilities.getD []))
      (by simp [Inputs.sanitized]))
  have hwakeup : Clean (if inputs.includeWakeupContext then
      sanitizePromptValue inputs.wakeupContext else .null) := by
    split
    · next hinclude =>
      exact clean_sanitizePromptValue (htidy _ (by simp [Inputs.sanitized, hinclude]))
    · trivial
  have hevent := clean_runtimeEventPayload_iff pyStr inputs.eventType inputs.target hpayload
  have hmerge : Clean merged ↔
      (∀ payload, inputs.mergeContext = .dict payload → Clean (sourceScore payload) ∧
        ∀ tagRef, .str tagRef ∈ sourceTags payload →
          looksLikeUuid (tagNameOf inputs.tagCatalog tagRef) = false) ∧
      ((∀ payload, inputs.mergeContext ≠ .dict payload) → Clean inputs.mergeContext) := by
    by_cases hdict : ∃ payload, inputs.mergeContext = .dict payload
    · obtain ⟨payload, hpayload⟩ := hdict
      have htidyMerge : TidyDict payload := htidy (.dict payload) (by
        unfold Inputs.sanitized
        rw [hpayload]
        simp)
      rw [hpayload] at hmerged ⊢
      rw [clean_mergeContextPayload_iff htidyMerge hmerged]
      exact ⟨fun h => ⟨fun payload' heq => by cases heq; exact h,
        fun hnot => absurd rfl (hnot payload)⟩, fun h => h.1 payload rfl⟩
    · push Not at hdict
      rw [mergeContextPayload_of_ne_dict hdict] at hmerged
      obtain rfl : inputs.mergeContext = merged := Option.some.inj hmerged
      exact ⟨fun h => ⟨fun payload heq => absurd heq (hdict payload), fun _ => h⟩,
        fun h => h.2 hdict⟩
  constructor
  · rintro ⟨hcleanEvent, hcleanMerge, -, -⟩
    obtain ⟨hmessage, hroute⟩ := hevent.mp hcleanEvent
    obtain ⟨hcopied, hother⟩ := hmerge.mp hcleanMerge
    exact ⟨hmessage, hroute, hcopied, hother⟩
  · rintro ⟨hmessage, hroute, hcopied, hother⟩
    exact ⟨hevent.mpr ⟨hmessage, hroute⟩, hmerge.mpr ⟨hcopied, hother⟩, hwakeup, hcapabilities⟩

/-- The variables show nothing that is to be hidden, and all else, exactly where what is sanitised
has no hidden key in another spelling and no null, and what is copied is clean by itself. -/
theorem prompt_sound_iff (pyStr : PromptValue → String) (inputs : Inputs) :
    Sound pyStr inputs ↔ (∀ value ∈ inputs.sanitized, Tidy value) ∧
      (Builds inputs → CopiedClean pyStr inputs) := by
  constructor
  · intro hsound
    have htidy : ∀ value ∈ inputs.sanitized, Tidy value := fun value hvalue =>
      (sanitizePromptValue_eq_kept_iff value).mp (hsound.keepsOthers value hvalue)
    refine ⟨htidy, fun hbuilds => ?_⟩
    obtain ⟨prompt, hprompt⟩ := Option.isSome_iff_exists.mp (builds_iff.mp hbuilds)
    exact (clean_iff_copiedClean htidy hprompt).mp (hsound.clean prompt hprompt)
  · rintro ⟨htidy, hcopied⟩
    refine ⟨fun prompt hprompt => ?_, fun value _ => sanitizePromptValue_idem value,
      fun value hvalue => (sanitizePromptValue_eq_kept_iff value).mpr (htidy value hvalue)⟩
    have hbuilds : Builds inputs := builds_iff.mpr (Option.isSome_of_eq_some hprompt)
    exact (clean_iff_copiedClean htidy hprompt).mpr (hcopied hbuilds)

end All

/-- The event of a message that names a key in capitals. -/
def shoutedInputs : Inputs :=
  { eventType := .chat
    target := .cocoon "c1"
    payload := [("ID", .str "42")]
    currentTime := some .null
    others := ⟨.null, .null, .null, .null, .null, .null, .null, .null, .null, .null, .null, .null,
      .null, .null, .null⟩ }

/-- The key in capitals is shown. -/
theorem shouted_id_shown : ¬ Sound (fun _ => "") shoutedInputs := by
  intro hsound
  have htidy : Tidy (.dict [("ID", .str "42")]) :=
    (sanitizePromptValue_eq_kept_iff _).mp (hsound.keepsOthers _ List.mem_cons_self)
  have hhidden : isSkipped "ID" = false ∧ isUuidText (.str "42") = false ∧
      isHidden "ID" = true := by
    decide +kernel
  obtain ⟨hskipped, huuid, hhidden⟩ := hhidden
  rcases htidy.1 with h | h | ⟨-, h⟩ | ⟨h, -⟩
  · rw [hskipped] at h
    cases h
  · rw [huuid] at h
    cases h
  · cases h
  · rw [hhidden] at h
    cases h

end PromptPayloads

end CocoonSit
