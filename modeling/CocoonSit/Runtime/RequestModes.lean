import CocoonSit.Catalog.Characters
import CocoonSit.Runtime.TimeLimits

/-!
# The two request modes

`MetaNode.evaluate` and `GeneratorNode.generate_inline` turn the model's structured answer into a
`MetaDecision`, each with normalisers of its own.  The copies differ in two places.  The inline
one keeps the white space at the ends of a fact-cache key, which names another cache row, and it
leaves a silent wakeup round without the event summary that the other one makes up.
-/

namespace CocoonSit.RequestModes

open SchedulerNode TimeLimits

/-! ## The structured answers -/

/-- `decision`. -/
inductive DecisionKind where
  | reply | silence
deriving DecidableEq, Repr

structure SessionUpdateModel where
  personaPatch : JsonDict := .empty
  relationDelta : ℤ := 0
  tagOps : List TagOperation := []

structure FactCacheOperationModel where
  op : FactCacheOpKind := .upsert
  cacheKey : String
  content : String := ""
  summary : Option String := none
  validUntil : Option String := none
  metaJson : JsonDict := .empty

/-- An entry of `schedule_wakeups`: pydantic leaves a dict that is no `ScheduledWakeupModel` as it
is. -/
inductive WakeupItem where
  | parsed (item : ScheduledWakeup)
  | dict (item : JsonDict)

/-- The fields that both answers have. -/
structure CommonOutput where
  sessionUpdate : SessionUpdateModel := {}
  eventSummary : Option String := none
  scheduleWakeups : List WakeupItem := []
  cancelWakeupTaskIds : List RowId := []
  usedMemoryIds : List String := []
  taskStateUpdate : TaskStateUpdate := {}
  factCacheOps : List FactCacheOperationModel := []
  memoryOps : List MemoryOperationModel := []

structure MetaStructuredOutputModel extends CommonOutput where
  decision : DecisionKind := .reply
  relationDelta : ℤ := 0
  personaPatch : List (String × JsonValue) := []
  tagOps : List TagOperation := []
  internalThought : String := ""
  generationBrief : Option String := none

structure SinglePassStructuredOutputModel extends CommonOutput where
  replyText : String
  internalThought : String := ""
  decision : DecisionKind := .reply
  generationBrief : Option String := none

structure ReplyOnlyStructuredOutputModel where
  replyText : String
  internalThought : String := ""

/-- `response.parsed`: nothing, something `model_validate` rejects, or what it returns. -/
inductive Parsed (α : Type) where
  | missing
  | rejected
  | valid (output : α)

/-- The parts of the provider's response that the decision is made of. -/
structure Response (α : Type) where
  parsed : Parsed α
  text : String := ""

/-- `pydantic` on the models above. -/
structure Pydantic where
  /-- `ScheduledWakeupModel.model_validate`, `none` where it raises. -/
  validateWakeup : JsonDict → Option ScheduledWakeup
  /-- `model_dump(exclude_none=True)` of a wakeup. -/
  dumpWakeup : ScheduledWakeup → JsonDict
  /-- `model_dump(exclude_none=True)` of a session update. -/
  dumpSessionUpdate : SessionUpdateModel → JsonDict
  /-- `model_dump(exclude_none=True)` of a task state update. -/
  dumpTaskStateUpdate : TaskStateUpdate → JsonDict

/-- `ContextPackage`: what the two nodes read of it for the decision. -/
structure ContextPackage where
  runtimeEvent : RuntimeEvent
  visibleMessages : List Message := []
  externalContext : JsonDict := .empty

structure MetaDecision where
  decision : DecisionKind
  relationDelta : ℤ
  personaPatch : JsonDict
  tagOps : List TagOperation
  internalThought : String
  eventSummary : Option String := none
  nextWakeupHints : List JsonDict := []
  cancelWakeupTaskIds : List RowId := []
  generationBrief : Option String := none
  usedMemoryIds : List String := []
  sessionUpdate : JsonDict := .empty
  taskStateUpdate : JsonDict := .empty
  factCacheOps : List FactCacheOperation := []
  memoryOps : List MemoryOperation := []
  requestMode : String := "meta_reply"

/-- `s[:n]`. -/
def sliceTo (s : String) (n : ℕ) : String := String.ofList (s.toList.take n)

/-- The ids that are more than white space, as they are. -/
def nonblank (ids : List String) : List String := ids.filter (strip · ≠ "")

section Nodes

variable (pydantic : Pydantic) (pyStr : JsonValue → String)

/-! ## `MetaNode` -/

namespace MetaNode

/-- One turn of the loop of `_normalize_wakeup_hints`. -/
def normalizeWakeupHint : WakeupItem → Option JsonDict
  | .parsed item => some (pydantic.dumpWakeup item)
  | .dict item => (pydantic.validateWakeup item).map pydantic.dumpWakeup

def normalizeWakeupHints (items : List WakeupItem) : List JsonDict :=
  items.filterMap (normalizeWakeupHint pydantic)

def normalizeTagOps (collections : List (List TagOperation)) : List TagOperation :=
  collections.flatMap fun collection => collection.filter fun item => 0 < item.tagIndex

/-- One turn of the loop of `_normalize_fact_cache_ops`. -/
def normalizeFactCacheOp (item : FactCacheOperationModel) : Option FactCacheOperation :=
  (stripOrNone item.cacheKey).map fun cacheKey =>
    { op := item.op
      cacheKey := cacheKey
      content := item.content
      summary := item.summary.bind stripOrNone
      validUntil := item.validUntil.bind stripOrNone
      metaJson := item.metaJson }

def normalizeFactCacheOps (items : List FactCacheOperationModel) : List FactCacheOperation :=
  items.filterMap normalizeFactCacheOp

/-- The first of these keys of a dict whose text is more than white space. -/
def firstText (d : JsonDict) (keys : List String) : Option String :=
  keys.findSome? fun key => (ContextBuilder.truthyText pyStr d key).bind stripOrNone

/-- `isinstance(wakeup_context, dict)`, and the first text it has. -/
def wakeupContextText (context : ContextPackage) : Option String :=
  match context.externalContext "wakeup_context" with
  | some (.obj fields) => firstText pyStr (.ofList fields) ["idle_summary", "summary", "reason"]
  | _ => none

/-- The summary of a wakeup that stays silent and has been given none. -/
def silentWakeupSummary (context : ContextPackage) : String :=
  ((wakeupContextText pyStr context).or
    (firstText pyStr context.runtimeEvent.payload ["summary", "reason"])).getD
    "Wakeup event evaluated without a visible reply."

def normalizeEventSummary (context : ContextPackage) (decision : DecisionKind)
    (rawSummary : Option String) : Option String :=
  match rawSummary.bind stripOrNone with
  | some normalized => some normalized
  | none =>
    if decision ≠ .silence ∨ context.runtimeEvent.eventType ≠ .wakeup then none
    else some (silentWakeupSummary pyStr context)

/-- The text of the last user message that stands. -/
def latestContent (context : ContextPackage) : String :=
  ((context.visibleMessages.reverse.find? fun message =>
    message.role = .user && !message.isRetracted).map Message.content).getD ""

def fallbackDecision (context : ContextPackage) (latestContent : String) : MetaDecision :=
  let payload := context.runtimeEvent.payload
  let source := (payload "source_cocoon_id").getD .null
  match context.runtimeEvent.eventType with
  | .wakeup =>
    let reason := (ContextBuilder.truthyText pyStr payload "reason").getD "scheduled wakeup"
    { decision := .reply
      relationDelta := 0
      personaPatch := .ofList [("last_wakeup_reason", .str (sliceTo reason 120))]
      tagOps := []
      internalThought := "Fallback wakeup meta decision."
      eventSummary := some (sliceTo reason 240) }
  | .pull =>
    { decision := .reply
      relationDelta := 0
      personaPatch := .ofList [("last_pull_source", source)]
      tagOps := []
      internalThought := "Fallback pull meta decision." }
  | .merge =>
    { decision := .reply
      relationDelta := 0
      personaPatch := .ofList [("last_merge_source", source)]
      tagOps := []
      internalThought := "Fallback merge meta decision." }
  | .chat | .edit | .retry =>
    { decision := if (strip latestContent).startsWith "/silent" then .silence else .reply
      relationDelta := if latestContent = "" then 0 else 1
      personaPatch := .ofList [("last_seen_intent", .str (sliceTo latestContent 120))]
      tagOps := []
      internalThought := "Fallback chat meta decision." }

/-- `parsed.persona_patch or {"last_seen_intent": latest_content[:120]}`. -/
def ownPersonaPatch (parsed : MetaStructuredOutputModel) (latestContent : String) : JsonDict :=
  if parsed.personaPatch = [] then
    .ofList [("last_seen_intent", .str (sliceTo latestContent 120))]
  else .ofList parsed.personaPatch

/-- The decision of an answer that is valid. -/
def metaDecision (context : ContextPackage) (parsed : MetaStructuredOutputModel) : MetaDecision :=
  let latest := latestContent context
  { decision := parsed.decision
    relationDelta :=
      (if latest ≠ "" ∨ parsed.relationDelta ≠ 0 then parsed.relationDelta else 0) +
        parsed.sessionUpdate.relationDelta
    personaPatch := (ownPersonaPatch parsed latest).merge parsed.sessionUpdate.personaPatch
    tagOps := normalizeTagOps [parsed.tagOps, parsed.sessionUpdate.tagOps]
    internalThought :=
      if parsed.internalThought = "" then "Structured meta decision completed."
      else parsed.internalThought
    eventSummary := normalizeEventSummary pyStr context parsed.decision parsed.eventSummary
    nextWakeupHints := normalizeWakeupHints pydantic parsed.scheduleWakeups
    cancelWakeupTaskIds := nonblank parsed.cancelWakeupTaskIds
    generationBrief := parsed.generationBrief
    usedMemoryIds := nonblank parsed.usedMemoryIds
    sessionUpdate := pydantic.dumpSessionUpdate parsed.sessionUpdate
    taskStateUpdate := pydantic.dumpTaskStateUpdate parsed.taskStateUpdate
    factCacheOps := normalizeFactCacheOps parsed.factCacheOps
    memoryOps := normalizeMemoryOps parsed.memoryOps
    requestMode := "meta_reply" }

def evaluate (context : ContextPackage) (response : Response MetaStructuredOutputModel) :
    MetaDecision :=
  match response.parsed with
  | .missing | .rejected => fallbackDecision pyStr context (latestContent context)
  | .valid parsed => metaDecision pydantic pyStr context parsed

end MetaNode

/-! ## `GeneratorNode` -/

namespace GeneratorNode

/-- One turn of the loop of `_normalize_wakeup_hints`. -/
def normalizeWakeupHint : WakeupItem → Option JsonDict
  | .parsed item => some (pydantic.dumpWakeup item)
  | .dict item => (pydantic.validateWakeup item).map pydantic.dumpWakeup

def normalizeWakeupHints (items : List WakeupItem) : List JsonDict :=
  items.filterMap (normalizeWakeupHint pydantic)

def factCacheOperation (item : FactCacheOperationModel) : FactCacheOperation where
  op := item.op
  cacheKey := item.cacheKey
  content := item.content
  summary := item.summary.bind stripOrNone
  validUntil := item.validUntil.bind stripOrNone
  metaJson := item.metaJson

/-- The `fact_cache_ops` of an answer. -/
def factCacheOps (items : List FactCacheOperationModel) : List FactCacheOperation :=
  (items.filter fun item => strip item.cacheKey ≠ "").map factCacheOperation

/-- `[t.strip() for t in texts if t.strip()]`. -/
def strippedTexts (texts : List String) : List String :=
  (texts.filter fun t => strip t ≠ "").map strip

/-- The memory operation of an item whose `op` is this kind. -/
def memoryOperation (kind : MemoryOpKind) (item : MemoryOperationModel) : MemoryOperation where
  op := kind
  content := strip item.content
  summary := item.summary.bind stripOrNone
  memoryType := if item.memoryType = "" then "preference" else item.memoryType
  memoryPool := (item.memoryPool.filter (· ≠ "")).map strip
  tags := strippedTexts item.tags
  importance := intOr item.importance 3
  confidence := intOr item.confidence 3
  reason := item.reason.bind stripOrNone
  validUntil := item.validUntil.bind stripOrNone
  targetMemoryId := item.targetMemoryId.bind stripOrNone
  supersedesMemoryIds := strippedTexts item.supersedesMemoryIds

/-- The `memory_ops` of an answer. -/
def memoryOps (items : List MemoryOperationModel) : List MemoryOperation :=
  items.filterMap fun item => item.op.map fun kind => memoryOperation kind item

def singlePassDecision (parsed : SinglePassStructuredOutputModel) (mode : String) :
    MetaDecision where
  decision := parsed.decision
  relationDelta := parsed.sessionUpdate.relationDelta
  personaPatch := parsed.sessionUpdate.personaPatch
  tagOps := parsed.sessionUpdate.tagOps.filter fun item => 0 < item.tagIndex
  internalThought := (stripOrNone parsed.internalThought).getD "Inline response generated."
  eventSummary := parsed.eventSummary.bind stripOrNone
  nextWakeupHints := normalizeWakeupHints pydantic parsed.scheduleWakeups
  cancelWakeupTaskIds := nonblank parsed.cancelWakeupTaskIds
  generationBrief := parsed.generationBrief
  usedMemoryIds := nonblank parsed.usedMemoryIds
  sessionUpdate := pydantic.dumpSessionUpdate parsed.sessionUpdate
  taskStateUpdate := pydantic.dumpTaskStateUpdate parsed.taskStateUpdate
  factCacheOps := factCacheOps parsed.factCacheOps
  memoryOps := memoryOps parsed.memoryOps
  requestMode := mode

/-- The decision of a reply-only answer that is valid: it changes nothing. -/
def replyOnlyDecision (parsed : ReplyOnlyStructuredOutputModel) (text : String) : MetaDecision where
  decision :=
    if (stripOrNone parsed.replyText).getD (strip text) = "" then .silence else .reply
  relationDelta := 0
  personaPatch := .empty
  tagOps := []
  internalThought := (stripOrNone parsed.internalThought).getD "Inline reply generated."
  requestMode := "reply_only"

/-- `generate_inline` in the mode `"reply_only"`: a rejected answer raises. -/
def generateInlineReplyOnly (response : Response ReplyOnlyStructuredOutputModel) :
    Except Unit MetaDecision :=
  match response.parsed with
  | .missing => .ok (replyOnlyDecision { replyText := strip response.text } response.text)
  | .rejected => .error ()
  | .valid parsed => .ok (replyOnlyDecision parsed response.text)

/-- `generate_inline` in any other mode: a rejected answer raises. -/
def generateInline (mode : String) (response : Response SinglePassStructuredOutputModel) :
    Except Unit MetaDecision :=
  match response.parsed with
  | .missing => .ok (singlePassDecision pydantic { replyText := strip response.text } mode)
  | .rejected => .error ()
  | .valid parsed => .ok (singlePassDecision pydantic parsed mode)

end GeneratorNode

end Nodes

/-! ## Where the copies agree -/

section Copies

variable {α β : Type*} {f : α → Option β} {p : α → Bool} {g : α → β}

/-- A loop with `continue` builds the list of a comprehension exactly when it builds the same value
from each item that both keep. -/
lemma filterMap_eq_map_filter_iff (hkept : ∀ a, (f a).isSome = p a) (items : List α) :
    items.filterMap f = (items.filter p).map g ↔ ∀ a ∈ items, ∀ b, f a = some b → b = g a := by
  induction items with
  | nil => simp
  | cons a items ih =>
    rw [List.forall_mem_cons]
    cases hfa : f a with
    | none =>
      have hpa : p a = false := by rw [← hkept, hfa]; rfl
      rw [List.filterMap_cons_none hfa, List.filter_cons_of_neg (by simp [hpa]), ih]
      simp
    | some b =>
      have hpa : p a = true := by rw [← hkept, hfa]; rfl
      rw [List.filterMap_cons_some hfa, List.filter_cons_of_pos hpa, List.map_cons,
        List.cons.injEq, ih]
      simp

end Copies

lemma stripAll_eq (texts : List String) : stripAll texts = GeneratorNode.strippedTexts texts :=
  (filterMap_eq_map_filter_iff isSome_stripOrNone texts).mpr
    fun _ _ _ h => (stripOrNone_eq_some_iff.mp h).2.symm

lemma memoryOps_eq (items : List MemoryOperationModel) :
    normalizeMemoryOps items = GeneratorNode.memoryOps items := by
  unfold normalizeMemoryOps GeneratorNode.memoryOps
  refine List.filterMap_congr fun item _ => ?_
  rw [normalizeMemoryOp]
  refine Option.map_congr fun kind _ => ?_
  rw [GeneratorNode.memoryOperation, stripAll_eq, stripAll_eq]

lemma wakeupHints_eq (pydantic : Pydantic) (items : List WakeupItem) :
    MetaNode.normalizeWakeupHints pydantic items =
      GeneratorNode.normalizeWakeupHints pydantic items := by
  refine List.filterMap_congr fun item _ => ?_
  cases item with
  | parsed item => rfl
  | dict item => rfl

/-! ## The fact-cache keys -/

/-- No key that counts has white space at its ends. -/
def KeysStripped (items : List FactCacheOperationModel) : Prop :=
  ∀ item ∈ items, strip item.cacheKey ≠ "" → strip item.cacheKey = item.cacheKey

lemma normalizeFactCacheOp_eq_some_iff {item : FactCacheOperationModel}
    {op : FactCacheOperation} :
    MetaNode.normalizeFactCacheOp item = some op ↔
      strip item.cacheKey ≠ "" ∧
        op = { GeneratorNode.factCacheOperation item with cacheKey := strip item.cacheKey } := by
  rw [MetaNode.normalizeFactCacheOp, Option.map_eq_some_iff]
  constructor
  · rintro ⟨key, hkey, rfl⟩
    obtain ⟨hne, rfl⟩ := stripOrNone_eq_some_iff.mp hkey
    exact ⟨hne, rfl⟩
  · rintro ⟨hne, rfl⟩
    exact ⟨_, if_neg hne, rfl⟩

lemma factCacheOps_eq_iff (items : List FactCacheOperationModel) :
    MetaNode.normalizeFactCacheOps items = GeneratorNode.factCacheOps items ↔
      KeysStripped items := by
  unfold MetaNode.normalizeFactCacheOps GeneratorNode.factCacheOps
  rw [filterMap_eq_map_filter_iff fun item => by
    rw [MetaNode.normalizeFactCacheOp, Option.isSome_map, isSome_stripOrNone]]
  constructor
  · intro h item hitem hne
    have hsame := h item hitem _ (normalizeFactCacheOp_eq_some_iff.mpr ⟨hne, rfl⟩)
    exact congrArg FactCacheOperation.cacheKey hsame
  · intro h item hitem op hop
    obtain ⟨hne, rfl⟩ := normalizeFactCacheOp_eq_some_iff.mp hop
    rw [h item hitem hne]
    rfl

/-! ## The event summary -/

/-- A wakeup round that stays silent has been given an event summary. -/
def SummaryGiven (context : ContextPackage) (decision : DecisionKind)
    (rawSummary : Option String) : Prop :=
  decision = .silence → context.runtimeEvent.eventType = .wakeup →
    (rawSummary.bind stripOrNone).isSome

lemma eventSummary_eq_iff (pyStr : JsonValue → String) (context : ContextPackage)
    (decision : DecisionKind) (rawSummary : Option String) :
    MetaNode.normalizeEventSummary pyStr context decision rawSummary =
        rawSummary.bind stripOrNone ↔
      SummaryGiven context decision rawSummary := by
  unfold MetaNode.normalizeEventSummary SummaryGiven
  cases hraw : rawSummary.bind stripOrNone with
  | some normalized => simp
  | none =>
    by_cases h : decision ≠ .silence ∨ context.runtimeEvent.eventType ≠ .wakeup
    · simp only [if_pos h, true_iff]
      intro hsilence hwakeup
      exact absurd h (by simp [hsilence, hwakeup])
    · push Not at h
      simp [h.1, h.2]

/-! ## The two decisions -/

/-- The two answers have the same common fields; the tag operations of the meta node's answer are
its own and those of its session update. -/
structure SameCommonFields (parsed : MetaStructuredOutputModel)
    (single : SinglePassStructuredOutputModel) : Prop where
  common : parsed.toCommonOutput = single.toCommonOutput
  tagOps : parsed.tagOps ++ parsed.sessionUpdate.tagOps = single.sessionUpdate.tagOps

/-- Two decisions with the same operations and the same event summary. -/
structure SameOperations (analysed inlined : MetaDecision) : Prop where
  tagOps : analysed.tagOps = inlined.tagOps
  nextWakeupHints : analysed.nextWakeupHints = inlined.nextWakeupHints
  cancelWakeupTaskIds : analysed.cancelWakeupTaskIds = inlined.cancelWakeupTaskIds
  usedMemoryIds : analysed.usedMemoryIds = inlined.usedMemoryIds
  sessionUpdate : analysed.sessionUpdate = inlined.sessionUpdate
  taskStateUpdate : analysed.taskStateUpdate = inlined.taskStateUpdate
  factCacheOps : analysed.factCacheOps = inlined.factCacheOps
  memoryOps : analysed.memoryOps = inlined.memoryOps
  eventSummary : analysed.eventSummary = inlined.eventSummary

/-- Two decisions with the same patch of the session state. -/
structure SameSessionState (analysed inlined : MetaDecision) : Prop where
  relationDelta : analysed.relationDelta = inlined.relationDelta
  personaPatch : analysed.personaPatch = inlined.personaPatch

variable {parsed : MetaStructuredOutputModel} {single : SinglePassStructuredOutputModel}

lemma sameOperations_iff (pydantic : Pydantic) (pyStr : JsonValue → String)
    (context : ContextPackage) (mode : String) (hsame : SameCommonFields parsed single) :
    SameOperations (MetaNode.metaDecision pydantic pyStr context parsed)
        (GeneratorNode.singlePassDecision pydantic single mode) ↔
      KeysStripped single.factCacheOps ∧
        SummaryGiven context parsed.decision single.eventSummary := by
  obtain ⟨hcommon, htags⟩ := hsame
  rw [← hcommon, ← factCacheOps_eq_iff, ← eventSummary_eq_iff pyStr context]
  constructor
  · intro h
    have hops := h.factCacheOps
    have hsummary := h.eventSummary
    simp only [MetaNode.metaDecision, GeneratorNode.singlePassDecision, ← hcommon]
      at hops hsummary
    exact ⟨hops, hsummary⟩
  · rintro ⟨hops, hsummary⟩
    refine
      { tagOps := ?_
        nextWakeupHints := ?_
        cancelWakeupTaskIds := ?_
        usedMemoryIds := ?_
        sessionUpdate := ?_
        taskStateUpdate := ?_
        factCacheOps := ?_
        memoryOps := ?_
        eventSummary := ?_ }
    all_goals simp only [MetaNode.metaDecision, GeneratorNode.singlePassDecision, ← hcommon]
    · rw [MetaNode.normalizeTagOps, List.flatMap_cons, List.flatMap_singleton,
        ← List.filter_append, htags, hcommon]
    · exact wakeupHints_eq pydantic _
    · exact hops
    · exact memoryOps_eq _
    · exact hsummary

/-- The fields that only the meta node's answer has leave the session state alone: it moves the
relation by nothing, and every persona key it or the default sets is set by the session update. -/
def OwnFieldsIdle (context : ContextPackage) (parsed : MetaStructuredOutputModel) : Prop :=
  parsed.relationDelta = 0 ∧
    ∀ k, parsed.sessionUpdate.personaPatch k = none →
      MetaNode.ownPersonaPatch parsed (MetaNode.latestContent context) k = none

lemma merge_eq_right_iff (d e : JsonDict) :
    d.merge e = e ↔ ∀ k, e k = none → d k = none := by
  constructor
  · intro h k hk
    have hmerged := congrFun h k
    rwa [JsonDict.merge_of_none hk, hk] at hmerged
  · intro h
    funext k
    cases hk : e k with
    | none => rw [JsonDict.merge_of_none hk, h k hk]
    | some v => exact JsonDict.merge_of_some hk

lemma sameSessionState_iff (pydantic : Pydantic) (pyStr : JsonValue → String)
    (context : ContextPackage) (mode : String) (hsame : SameCommonFields parsed single) :
    SameSessionState (MetaNode.metaDecision pydantic pyStr context parsed)
        (GeneratorNode.singlePassDecision pydantic single mode) ↔
      OwnFieldsIdle context parsed := by
  have hupdate : single.sessionUpdate = parsed.sessionUpdate := by rw [hsame.common]
  have hdelta : ∀ latest : String,
      (if latest ≠ "" ∨ parsed.relationDelta ≠ 0 then parsed.relationDelta else 0) =
        parsed.relationDelta := by
    intro latest
    by_cases hzero : parsed.relationDelta = 0
    · simp [hzero]
    · simp [hzero]
  unfold OwnFieldsIdle
  rw [← merge_eq_right_iff]
  constructor
  · intro h
    have hrelation := h.relationDelta
    have hpersona := h.personaPatch
    simp only [MetaNode.metaDecision, GeneratorNode.singlePassDecision, hdelta, hupdate]
      at hrelation hpersona
    exact ⟨by omega, hpersona⟩
  · rintro ⟨hrelation, hpersona⟩
    refine { relationDelta := ?_, personaPatch := ?_ }
    all_goals simp only [MetaNode.metaDecision, GeneratorNode.singlePassDecision, hupdate]
    · rw [hdelta, hrelation, zero_add]
    · exact hpersona

/-- Both paths build a decision, and for answers with the same common fields the operations and
the event summary are the same exactly when no fact-cache key has white space at its ends and a
wakeup that stays silent has been given a summary.  What the decisions do to the session state is
the same exactly when the meta node's own fields leave it alone. -/
theorem requestModes_agree_iff (pydantic : Pydantic) (pyStr : JsonValue → String)
    (context : ContextPackage) (mode text text' : String)
    (hsame : SameCommonFields parsed single) :
    ∃ inlined, GeneratorNode.generateInline pydantic mode ⟨.valid single, text'⟩ = .ok inlined ∧
      (SameOperations (MetaNode.evaluate pydantic pyStr context ⟨.valid parsed, text⟩) inlined ↔
        KeysStripped single.factCacheOps ∧
          SummaryGiven context parsed.decision single.eventSummary) ∧
      (SameSessionState (MetaNode.evaluate pydantic pyStr context ⟨.valid parsed, text⟩) inlined ↔
        OwnFieldsIdle context parsed) :=
  ⟨_, rfl, sameOperations_iff pydantic pyStr context mode hsame,
    sameSessionState_iff pydantic pyStr context mode hsame⟩

/-- Dumps of models whose dicts and optional fields are empty. -/
def plainPydantic : Pydantic where
  validateWakeup := fun _ => none
  dumpWakeup := fun item =>
    .ofList [("reason", .str item.reason.val), ("payload_json", .obj [])]
  dumpSessionUpdate := fun update =>
    .ofList [("persona_patch", .obj []), ("relation_delta", .num update.relationDelta),
      ("tag_ops", .arr [])]
  dumpTaskStateUpdate := fun update =>
    .ofList [("completed", .bool update.completed), ("meta_json", .obj [])]

/-- A chat round. -/
def chatContext : ContextPackage where
  runtimeEvent := { eventType := .chat, target := .cocoon "c", actionId := "a" }

theorem requestModes_agree_iff_plain :
    ∃ inlined, GeneratorNode.generateInline plainPydantic "single_pass"
          ⟨.valid { replyText := "Hi" }, ""⟩ = .ok inlined ∧
      (SameOperations (MetaNode.evaluate plainPydantic (fun _ => "") chatContext ⟨.valid {}, ""⟩)
          inlined ↔ KeysStripped [] ∧ SummaryGiven chatContext .reply none) ∧
      (SameSessionState
          (MetaNode.evaluate plainPydantic (fun _ => "") chatContext ⟨.valid {}, ""⟩) inlined ↔
        OwnFieldsIdle chatContext {}) :=
  @requestModes_agree_iff {} { replyText := "Hi" } plainPydantic (fun _ => "") chatContext
    "single_pass" "" "" ⟨rfl, rfl⟩

/-- Common fields with one fact whose key the model has written with spaces around it. -/
def spacedKeyOutput : CommonOutput where
  factCacheOps := [{ cacheKey := " city ", content := "Rome" }]

/-- The meta node writes the row `city`, the inline path the row ` city `. -/
theorem spacedKey_not_sameOperations :
    SameCommonFields { spacedKeyOutput with } { spacedKeyOutput with replyText := "Hi" } ∧
      ∃ inlined, GeneratorNode.generateInline plainPydantic "single_pass"
            ⟨.valid { spacedKeyOutput with replyText := "Hi" }, ""⟩ = .ok inlined ∧
        ¬ SameOperations
          (MetaNode.evaluate plainPydantic (fun _ => "") chatContext
            ⟨.valid { spacedKeyOutput with }, ""⟩) inlined := by
  refine ⟨⟨rfl, rfl⟩, _, rfl, fun h => ?_⟩
  have hkeys : ["city"] = [" city "] :=
    congrArg (fun ops => ops.map FactCacheOperation.cacheKey) h.factCacheOps
  exact absurd hkeys (by decide)

end CocoonSit.RequestModes
