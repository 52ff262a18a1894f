import CocoonSit.Lib.Scan
import CocoonSit.Lib.Table
import CocoonSit.Model.Python
import Mathlib.Data.List.Dedup
import Mathlib.Data.Rat.Defs
import Mathlib.Data.String.Basic

/-!
# The prompt renderer

Templates name variables between double braces.  The renderer redacts the values it is given, and
writes each in the place of its name: strings as they are, and other values as lines of text, in
words of their own for the variables it knows.
-/

namespace CocoonSit

open Table

/-! ## Values -/

/-- A value that a variable stands for, as JSON has it. -/
inductive PromptValue where
  | null
  | bool (value : Bool)
  | int (value : ℤ)
  | float (value : ℚ)
  | str (value : String)
  | list (items : List PromptValue)
  | dict (items : List (String × PromptValue))

/-- A dictionary of the variables. -/
abbrev PromptVariables := List (String × PromptValue)

namespace PromptValue

/-- Python's truth of a value. -/
def truthy : PromptValue → Bool
  | null => false
  | bool value => value
  | int value => value ≠ 0
  | float value => value ≠ 0
  | str value => value ≠ ""
  | list items => !items.isEmpty
  | dict items => !items.isEmpty

/-- `value in (None, "", [], {})`. -/
def isBlank : PromptValue → Bool
  | null => true
  | str value => value = ""
  | list items => items.isEmpty
  | dict items => items.isEmpty
  | _ => false

/-- `value in (None, "")`. -/
def isNoneOrEmpty : PromptValue → Bool
  | null => true
  | str value => value = ""
  | _ => false

end PromptValue

/-- `items.get(key)`. -/
def lookupItem (items : List (String × PromptValue)) (key : String) : PromptValue :=
  (items.lookup key).getD .null

/-! ## Redaction -/

def sensitiveKeys : List String := ["secret", "token", "api_key", "password", "secret_encrypted"]

def isSensitive (key : String) : Bool := sensitiveKeys.contains (key.map lowerChar)

mutual

def sanitizeSnapshot : PromptValue → PromptValue
  | .dict items => .dict (sanitizeItems items)
  | .list items => .list (sanitizeList items)
  | value => value

def sanitizeItem : String × PromptValue → String × PromptValue
  | (key, item) =>
    (key, if isSensitive key then .str "***redacted***" else sanitizeSnapshot item)

def sanitizeItems : List (String × PromptValue) → List (String × PromptValue)
  | [] => []
  | item :: items => sanitizeItem item :: sanitizeItems items

def sanitizeList : List PromptValue → List PromptValue
  | [] => []
  | item :: items => sanitizeSnapshot item :: sanitizeList items

end

/-! ## Placeholders -/

/-- `[a-zA-Z0-9_]`. -/
def isWordChar (c : Char) : Bool := c.isAlphanum || c = '_'

/-- `PLACEHOLDER_RE` at the front of a text: the name between the braces, and the length of the
match.  Blanks, names and braces have no character in common, so each part of the expression takes
all it can. -/
def matchPlaceholder : List Char → Option (String × ℕ)
  | '\x7b' :: '\x7b' :: cs =>
    let inner := cs.dropWhile isSpace
    let name := inner.takeWhile isWordChar
    match (inner.dropWhile isWordChar).dropWhile isSpace with
    | '\x7d' :: '\x7d' :: rest =>
      if name = [] then none else some (String.ofList name, cs.length + 2 - rest.length)
    | _ => none
  | _ => none

/-- The names of a template, in order of their first characters. -/
def findPlaceholders (content : String) : List String :=
  orderBy id (Scan.findall matchPlaceholder content.toList).dedup

example : findPlaceholders "\x7b\x7bb\x7d\x7d \x7b\x7b\x7b a \x7d\x7d \x7b\x7b c\x7d \x7d" =
    ["a", "b"] := by decide +kernel

/-! ## Text -/

section Text

variable (pyStr dumps : PromptValue → String)

/-- `str(value)`; what it makes of anything but a string is `pyStr`. -/
def toText : PromptValue → String
  | .str value => value
  | value => pyStr value

/-- `str(value or default)`. -/
def strOr (value : PromptValue) (default : String) : String :=
  if value.truthy then toText pyStr value else default

/-- `_stringify_scalar`, where `json.dumps` is `dumps`. -/
def stringifyScalar : PromptValue → String
  | .str value => value
  | value => dumps value

def joinLines (lines : List String) : String := String.intercalate "\n" lines

def spaces (indent : ℕ) : String := String.ofList (List.replicate indent ' ')

def indentBlock (text : String) (indent : ℕ) : String :=
  joinLines ((splitlines text).map fun line => spaces indent ++ line)

def PromptValue.isCompound : PromptValue → Bool
  | .list _ => true
  | .dict _ => true
  | _ => false

/-- An entry under its label, on the same line where it fits on it. -/
def labelledLines (label : String) (item : PromptValue) (rendered : String) (indent : ℕ) :
    List String :=
  if item.isCompound || rendered.toList.contains '\n' then
    [label, indentBlock rendered (indent + 2)]
  else [label ++ " " ++ rendered]

mutual

def formatPromptValue (indent : ℕ) : PromptValue → String
  | .dict items => if items.isEmpty then "\x7b\x7d" else joinLines (formatMapping indent items)
  | .list items => if items.isEmpty then "[]" else joinLines (formatSequence indent items)
  | value => stringifyScalar dumps value

def formatItem (indent : ℕ) : String × PromptValue → List String
  | (key, item) =>
    labelledLines (spaces indent ++ key ++ ":") item (formatPromptValue (indent + 2) item) indent

/-- The lines of `_format_mapping`. -/
def formatMapping (indent : ℕ) : List (String × PromptValue) → List String
  | [] => []
  | item :: items => formatItem indent item ++ formatMapping indent items

/-- The lines of `_format_sequence`. -/
def formatSequence (indent : ℕ) : List PromptValue → List String
  | [] => []
  | item :: items =>
    labelledLines (spaces indent ++ "-") item (formatPromptValue (indent + 2) item) indent ++
      formatSequence indent items

end

/-- The names among the items of a list, as `str(item).strip()` has them. -/
def itemNames (items : List PromptValue) : List String :=
  (items.map fun item => strip (toText pyStr item)).filter (· ≠ "")

def renderCharacterSettings : PromptValue → String
  | .dict items =>
    let description := strip (strOr pyStr (lookupItem items "description") "")
    let promptSummary := strip (strOr pyStr (lookupItem items "prompt_summary") "")
    let personalityPrompt := strip (strOr pyStr (lookupItem items "personality_prompt") "")
    let extras := items.filter fun item =>
      !(["description", "prompt_summary", "personality_prompt"].contains item.1)
    let lines :=
      (if description ≠ "" then ["角色描述：" ++ description] else []) ++
      (if promptSummary ≠ "" then ["角色摘要：" ++ promptSummary] else []) ++
      (if personalityPrompt ≠ "" then ["角色补充设定：", personalityPrompt] else []) ++
      (if extras.isEmpty then [] else
        "其他角色设定：" :: extras.map fun item =>
          "- " ++ item.1 ++ "：" ++ formatPromptValue dumps 0 item.2)
    if lines.isEmpty then "未提供额外角色设定。" else joinLines lines
  | value => formatPromptValue dumps 0 value

/-- The line on the persona. -/
def personaLines : PromptValue → List String
  | .dict items =>
    let parts := (items.filter fun item => !item.2.isBlank).map fun item =>
      item.1 ++ " 为“" ++ stringifyScalar dumps item.2 ++ "”"
    if parts.isEmpty then [] else ["当前人格状态中，" ++ String.intercalate "，" parts ++ "。"]
  | .str persona => if strip persona = "" then [] else ["当前人格状态：" ++ strip persona]
  | _ => []

def renderSessionState : PromptValue → String
  | .dict items =>
    let relationScore := lookupItem items "relation_score"
    let lines :=
      (if relationScore.isNoneOrEmpty then []
        else ["当前关系分为 " ++ toText pyStr relationScore ++ "。"]) ++
      personaLines dumps (lookupItem items "persona") ++
      match lookupItem items "active_tags" with
      | .list tags =>
        let names := itemNames pyStr tags
        ["当前激活标签：" ++
          (if names.isEmpty then "无" else String.intercalate "、" names) ++ "。"]
      | _ => []
    if lines.isEmpty then "当前没有额外会话状态。" else joinLines lines
  | value => formatPromptValue dumps 0 value

/-- The line of one tag; what is no dictionary has none. -/
def tagCatalogLine : PromptValue → Option String
  | .dict items =>
    let index := lookupItem items "index"
    let tagId := strip (strOr pyStr (lookupItem items "tag_id") "")
    let name := if tagId = "" then "unknown" else tagId
    let brief := strip (strOr pyStr (lookupItem items "brief") "")
    some ((if index.isNoneOrEmpty then name else toText pyStr index ++ ". " ++ name) ++
      if brief = "" then "" else "：" ++ brief)
  | _ => none

def renderTagCatalog : PromptValue → String
  | .list items =>
    if items.isEmpty then "当前没有可引用的标签目录。"
    else joinLines ("当前可引用的标签如下：" :: items.filterMap (tagCatalogLine pyStr))
  | value => formatPromptValue dumps 0 value

/-- `"标签：" + "、".join(tag_names)`, where there are any. -/
def tagNamesPart : PromptValue → List String
  | .list tags =>
    let names := itemNames pyStr tags
    if names.isEmpty then [] else ["标签：" ++ String.intercalate "、" names]
  | _ => []

/-- The lines of a list, with the number each item has in it. -/
def numberedLines (render : String → PromptValue → List String) (items : List PromptValue) :
    List String :=
  items.zipIdx.flatMap fun item => render (toString (item.2 + 1) ++ ". ") item.1

def visibleMessageLine (number : String) : PromptValue → List String
  | .dict items =>
    let role := strip (strOr pyStr (lookupItem items "role") "unknown")
    let speaker := strip (strOr pyStr (lookupItem items "speaker") "")
    let speaking :=
      if role = "user" then number ++ "用户" ++ if speaker = "" then "" else " " ++ speaker
      else if role = "assistant" && (lookupItem items "is_thought").truthy then
        number ++ "助手内部事件摘要"
      else if role = "assistant" then number ++ "助手"
      else number ++ role
    let content := strip (strOr pyStr (lookupItem items "content") "")
    let parts := tagNamesPart pyStr (lookupItem items "tags") ++
      if (lookupItem items "is_retracted").truthy then ["该消息之后被撤回"] else []
    [speaking ++ "：" ++ (if content = "" then "（空内容）" else content) ++
      if parts.isEmpty then "" else "（" ++ String.intercalate "；" parts ++ "）"]
  | item => [number ++ formatPromptValue dumps 0 item]

def renderVisibleMessages : PromptValue → String
  | .list items =>
    if items.isEmpty then "最近没有可见消息。"
    else joinLines (numberedLines (visibleMessageLine pyStr dumps) items)
  | value => formatPromptValue dumps 0 value

def memoryLines (number : String) : PromptValue → List String
  | .dict items =>
    let source := strip (strOr pyStr (lookupItem items "source") "unknown")
    let scope := strip (strOr pyStr (lookupItem items "scope") "")
    let summary := strip (strOr pyStr (lookupItem items "summary") "")
    let content := strip (strOr pyStr (lookupItem items "content") "")
    let details :=
      (if summary = "" then [] else ["摘要：" ++ summary]) ++
      (if content = "" then [] else ["内容：" ++ content]) ++
      tagNamesPart pyStr (lookupItem items "tags")
    (number ++ "来自 " ++ source ++ " 的记忆" ++
        (if scope = "" then "" else "（范围：" ++ scope ++ "）") ++ "。") ::
      if details.isEmpty then [] else ["   " ++ String.intercalate " " details]
  | item => [number ++ formatPromptValue dumps 0 item]

def renderMemoryContext : PromptValue → String
  | .list items =>
    if items.isEmpty then "没有检索到相关长期记忆。"
    else joinLines (numberedLines (memoryLines pyStr dumps) items)
  | value => formatPromptValue dumps 0 value

/-- What the event is about in a dictionary of its own. -/
def contextLines (title : String) : PromptValue → List String
  | .dict items =>
    let details := (items.filter fun item => !item.2.isBlank).map fun item =>
      item.1 ++ "=" ++ stringifyScalar dumps item.2
    if details.isEmpty then [] else [title ++ "：" ++ String.intercalate "，" details ++ "。"]
  | _ => []

/-- The entries of an event that have lines of their own. -/
def runtimeEventKeys : List String :=
  ["event_type", "target_type", "external_sender_display_name", "aggregated_message_count",
    "chat_retry_attempt", "im_message_kind", "im_context", "im_route_context"]

/-- The entries that are not blank, outside some keys. -/
def otherLines (keys : List String) (items : List (String × PromptValue)) : List String :=
  (items.filter fun item => !keys.contains item.1 && !item.2.isBlank).map fun item =>
    item.1 ++ "：" ++ formatPromptValue dumps 0 item.2

def renderRuntimeEvent : PromptValue → String
  | .dict items =>
    let eventType := strip (strOr pyStr (lookupItem items "event_type") "unknown")
    let targetType := strip (strOr pyStr (lookupItem items "target_type") "unknown")
    let sender := strip (strOr pyStr (lookupItem items "external_sender_display_name") "")
    let count := lookupItem items "aggregated_message_count"
    let retryAttempt := lookupItem items "chat_retry_attempt"
    let imKind := strip (strOr pyStr (lookupItem items "im_message_kind") "")
    joinLines (
      ["当前事件类型为 " ++ eventType ++ "，目标类型为 " ++ targetType ++ "。"] ++
      (if sender = "" then [] else ["当前外部发送者显示名为 " ++ sender ++ "。"]) ++
      (if count.truthy then ["本轮聚合了 " ++ toText pyStr count ++ " 条消息。"] else []) ++
      (if retryAttempt.truthy then
        ["当前是第 " ++ toText pyStr retryAttempt ++ " 次处理尝试。"] else []) ++
      (if imKind = "" then [] else ["IM 消息类型为 " ++ imKind ++ "。"]) ++
      contextLines dumps "IM 上下文" (lookupItem items "im_context") ++
      contextLines dumps "路由上下文" (lookupItem items "im_route_context") ++
      otherLines dumps runtimeEventKeys items)
  | value => formatPromptValue dumps 0 value

def pendingWakeupLine (number : String) : PromptValue → List String
  | .dict items =>
    let taskId := strip (strOr pyStr (lookupItem items "id") "unknown")
    let runAt := strip (strOr pyStr (lookupItem items "run_at") "unknown")
    let reason := strip (strOr pyStr (lookupItem items "reason") "未提供原因")
    let status := strip (strOr pyStr (lookupItem items "status") "unknown")
    [number ++ "任务 " ++ taskId ++ " 将在 " ++ runAt ++ " 执行，状态为 " ++ status ++
      "，原因：" ++ reason ++ "。"]
  | item => [number ++ formatPromptValue dumps 0 item]

def renderPendingWakeups : PromptValue → String
  | .list items =>
    if items.isEmpty then "当前没有待执行的唤醒任务。"
    else joinLines
      ("当前待执行的唤醒任务：" :: numberedLines (pendingWakeupLine pyStr dumps) items)
  | value => formatPromptValue dumps 0 value

def renderMergeContext (value : PromptValue) : String :=
  if value.isBlank then "当前没有合并上下文。"
  else
    match value with
    | .dict items =>
      let sourceState := lookupItem items "source_state"
      let stateLines :=
        match sourceState with
        | .dict _ => ["来源会话状态如下：", renderSessionState pyStr dumps sourceState]
        | _ => []
      let lines := stateLines ++ otherLines dumps ["source_state"] items
      if lines.isEmpty then "当前没有合并上下文。" else joinLines lines
    | value => formatPromptValue dumps 0 value

def renderProviderCapabilities : PromptValue → String
  | .dict items =>
    if items.isEmpty then "当前没有额外的模型能力提示。"
    else joinLines ("当前模型能力提示：" ::
      (items.filter fun item => !item.2.isBlank).map fun item =>
        "- " ++ item.1 ++ "：" ++ formatPromptValue dumps 0 item.2)
  | value => formatPromptValue dumps 0 value

def renderWakeupContext (value : PromptValue) : String :=
  if value.isBlank then "当前没有唤醒上下文。" else formatPromptValue dumps 0 value

def renderPromptVariable (variableName : String) (value : PromptValue) : String :=
  match variableName with
  | "character_settings" => renderCharacterSettings pyStr dumps value
  | "session_state" => renderSessionState pyStr dumps value
  | "tag_catalog" => renderTagCatalog pyStr dumps value
  | "visible_messages" => renderVisibleMessages pyStr dumps value
  | "memory_context" => renderMemoryContext pyStr dumps value
  | "runtime_event" => renderRuntimeEvent pyStr dumps value
  | "pending_wakeups" => renderPendingWakeups pyStr dumps value
  | "merge_context" => renderMergeContext pyStr dumps value
  | "provider_capabilities" => renderProviderCapabilities dumps value
  | "wakeup_context" => renderWakeupContext dumps value
  | _ => formatPromptValue dumps 0 value

/-- Strings are written as they are; a name that is given is never empty. -/
def coerceRenderValue (value : PromptValue) (variableName : String) : String :=
  match value with
  | .str value => value
  | value => renderPromptVariable pyStr dumps variableName value

/-- `raise KeyError(key)`. -/
structure KeyError where
  key : String

/-- What stands for a name. -/
def replacePlaceholder (sanitized : PromptVariables) (key : String) :
    Except KeyError (List Char) :=
  match sanitized.lookup key with
  | none => .error ⟨key⟩
  | some value => .ok (coerceRenderValue pyStr dumps value key).toList

def renderTemplate (content : String) (values : PromptVariables) : Except KeyError String :=
  (Scan.sub matchPlaceholder (replacePlaceholder pyStr dumps (sanitizeItems values))
    content.toList).map String.ofList

end Text

/-! ## What the renderer promises -/

lemma mem_findPlaceholders {content key : String} :
    key ∈ findPlaceholders content ↔ key ∈ Scan.findall matchPlaceholder content.toList := by
  rw [findPlaceholders, mem_orderBy, List.mem_dedup]

@[simp] lemma keys_sanitizeItems (items : List (String × PromptValue)) :
    (sanitizeItems items).map Prod.fst = items.map Prod.fst := by
  induction items with
  | nil => rfl
  | cons item items ih =>
    obtain ⟨key, value⟩ := item
    rw [sanitizeItems, List.map_cons, ih, sanitizeItem]
    rfl

section Text

variable {pyStr dumps : PromptValue → String}

/-- A template is rendered if and only if all its names stand for something. -/
theorem renderTemplate_isOk_iff {content : String} {values : PromptVariables} :
    (renderTemplate pyStr dumps content values).isOk ↔
      ∀ key ∈ findPlaceholders content, key ∈ values.map Prod.fst := by
  have hreplace : ∀ key, (replacePlaceholder pyStr dumps (sanitizeItems values) key).isOk ↔
      key ∈ values.map Prod.fst := by
    intro key
    rw [← keys_sanitizeItems values, replacePlaceholder]
    cases hlookup : (sanitizeItems values).lookup key with
    | none =>
      have hkey : key ∉ (sanitizeItems values).map Prod.fst := by
        intro hmem
        obtain ⟨item, hitem, rfl⟩ := List.mem_map.mp hmem
        simpa using List.lookup_eq_none_iff.mp hlookup item hitem
      exact iff_of_false (by simp [Except.isOk, Except.toBool]) hkey
    | some value =>
      obtain ⟨_, _, heq, -⟩ := List.lookup_eq_some_iff.mp hlookup
      refine iff_of_true rfl ?_
      rw [heq]
      simp
  have hsub : (renderTemplate pyStr dumps content values).isOk =
      (Scan.sub matchPlaceholder (replacePlaceholder pyStr dumps (sanitizeItems values))
        content.toList).isOk := by
    rw [renderTemplate]
    cases Scan.sub matchPlaceholder (replacePlaceholder pyStr dumps (sanitizeItems values))
      content.toList with
    | error e => rfl
    | ok text => rfl
  rw [hsub, Scan.sub_isOk_iff]
  exact forall_congr' fun key => by rw [hreplace, mem_findPlaceholders]

end Text

/-! ## Redaction, everywhere -/

mutual

/-- No sensitive key shows its value. -/
def Redacted : PromptValue → Prop
  | .dict items => RedactedItems items
  | .list items => RedactedList items
  | _ => True

def RedactedItem : String × PromptValue → Prop
  | (key, item) =>
    (isSensitive key → item = .str "***redacted***") ∧ Redacted item

def RedactedItems : List (String × PromptValue) → Prop
  | [] => True
  | item :: items => RedactedItem item ∧ RedactedItems items

def RedactedList : List PromptValue → Prop
  | [] => True
  | item :: items => Redacted item ∧ RedactedList items

end

mutual

/-- What the renderer records and renders is redacted at every depth. -/
theorem redacted_sanitizeSnapshot : ∀ value, Redacted (sanitizeSnapshot value)
  | .dict items => by
      rw [sanitizeSnapshot, Redacted]
      exact redactedItems_sanitizeItems items
  | .list items => by
      rw [sanitizeSnapshot, Redacted]
      exact redactedList_sanitizeList items
  | .null => trivial
  | .bool _ => trivial
  | .int _ => trivial
  | .float _ => trivial
  | .str _ => trivial

theorem redactedItem_sanitizeItem : ∀ item, RedactedItem (sanitizeItem item)
  | (key, value) => by
      rw [sanitizeItem]
      by_cases hkey : isSensitive key = true
      · rw [if_pos hkey]
        exact ⟨fun _ => rfl, trivial⟩
      · rw [if_neg hkey]
        exact ⟨fun h => absurd h hkey, redacted_sanitizeSnapshot value⟩

theorem redactedItems_sanitizeItems : ∀ items, RedactedItems (sanitizeItems items)
  | [] => trivial
  | item :: items => by
      rw [sanitizeItems]
      exact ⟨redactedItem_sanitizeItem item, redactedItems_sanitizeItems items⟩

theorem redactedList_sanitizeList : ∀ items, RedactedList (sanitizeList items)
  | [] => trivial
  | item :: items => by
      rw [sanitizeList]
      exact ⟨redacted_sanitizeSnapshot item, redactedList_sanitizeList items⟩

end

end CocoonSit
