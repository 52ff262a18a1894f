import CocoonSit.Model.Entities

/-!
# The client's session store

What the web client keeps of each open conversation: the messages it has loaded, the reply that is
being streamed, and the state the server reported.  The store is a map from session keys; every
action replaces the session of one key, starting from the empty session if there is none.
-/

namespace CocoonSit.Client

open Table

/-- What the client's lists need of a message; `createdAt` is `new Date(created_at).getTime()`. -/
structure MessageRead where
  id : ℕ
  messageUid : RowId
  createdAt : ℤ
  isThought : Bool := false
  isRetracted : Bool := false
deriving DecidableEq, Repr

instance : Keyed MessageRead ℕ := ⟨MessageRead.id⟩

/-- A session of the store. -/
structure ChatSessionState where
  messages : List MessageRead
  streamingAssistant : String
  relationScore : Option ℤ
  personaJson : JsonDict
  activeTags : List RowId
  currentModelId : Option ℕ
  currentWakeupTaskId : Option RowId
  dispatchState : String
  dispatchReason : Option String
  debounceUntil : Option String
  isUserTyping : Bool
  lastError : Option String

def defaultRelationScore : ℤ := 50

def emptySession : ChatSessionState where
  messages := []
  streamingAssistant := ""
  relationScore := some defaultRelationScore
  personaJson := .empty
  activeTags := []
  currentModelId := none
  currentWakeupTaskId := none
  dispatchState := "idle"
  dispatchReason := none
  debounceUntil := none
  isUserTyping := false
  lastError := none

abbrev Sessions := String → Option ChatSessionState

/-- `sessions[key] || EMPTY_SESSION`. -/
def Sessions.session (s : Sessions) (key : String) : ChatSessionState := (s key).getD emptySession

/-- `{...sessions, [key]: f(sessions[key] || EMPTY_SESSION)}`. -/
def Sessions.modify (s : Sessions) (key : String) (f : ChatSessionState → ChatSessionState) :
    Sessions :=
  fun key' => if key' = key then some (f (s.session key)) else s key'

/-! ## Messages -/

/-- `sortMessages`: by creation time, and by id within a millisecond. -/
def sortMessages (items : List MessageRead) : List MessageRead :=
  orderBy (fun m => toLex (m.createdAt, m.id)) items

/-- `mergeMessages`: a later entry for an id takes the place of an earlier one. -/
def mergeMessages (existing nextItems : List MessageRead) : List MessageRead :=
  sortMessages ((existing ++ nextItems).foldl put [])

def setMessages (messages : List MessageRead) (s : ChatSessionState) : ChatSessionState :=
  { s with messages := sortMessages messages }

def prependMessages (messages : List MessageRead) (s : ChatSessionState) : ChatSessionState :=
  { s with messages := mergeMessages s.messages messages }

def upsertMessage (message : MessageRead) (s : ChatSessionState) : ChatSessionState :=
  { s with messages := mergeMessages s.messages [message] }

/-! ## The other fields -/

def setStreamingAssistant (value : String) (s : ChatSessionState) : ChatSessionState :=
  { s with streamingAssistant := value }

def appendStreamingAssistant (value : String) (s : ChatSessionState) : ChatSessionState :=
  { s with streamingAssistant := s.streamingAssistant ++ value }

def setError (error : Option String) (s : ChatSessionState) : ChatSessionState :=
  { s with lastError := error }

/-- The argument of `applyStatePatch`.  A field is absent (`none`), `null` (`some none`) or a
value. -/
structure StatePatch where
  relationScore : Option (Option ℤ) := none
  personaJson : Option JsonDict := none
  activeTags : Option (List RowId) := none
  currentModelId : Option (Option ℕ) := none
  currentWakeupTaskId : Option (Option RowId) := none
  dispatchState : Option String := none
  dispatchReason : Option (Option String) := none
  debounceUntil : Option (Option String) := none

/-- `given ?? current`, where `given` may be `undefined` or `null`. -/
def coalesce {α : Type*} (given : Option (Option α)) (current : Option α) : Option α :=
  given.join.or current

def applyStatePatch (patch : StatePatch) (s : ChatSessionState) : ChatSessionState :=
  { s with
    relationScore := some ((coalesce patch.relationScore s.relationScore).getD defaultRelationScore)
    personaJson := patch.personaJson.getD s.personaJson
    activeTags := patch.activeTags.getD s.activeTags
    currentModelId := coalesce patch.currentModelId s.currentModelId
    currentWakeupTaskId := coalesce patch.currentWakeupTaskId s.currentWakeupTaskId
    dispatchState := patch.dispatchState.getD s.dispatchState
    dispatchReason := coalesce patch.dispatchReason s.dispatchReason
    debounceUntil := coalesce patch.debounceUntil s.debounceUntil }

/-! ## What an action leaves -/

variable {s : Sessions} {key key' : String}

@[simp] lemma session_modify (f : ChatSessionState → ChatSessionState) :
    (s.modify key f).session key = f (s.session key) := by
  simp [Sessions.modify, Sessions.session]

lemma modify_other (f : ChatSessionState → ChatSessionState) (h : key' ≠ key) :
    s.modify key f key' = s key' := by
  simp [Sessions.modify, h]

lemma coalesce_absent {α : Type*} (current : Option α) : coalesce none current = current := rfl

lemma coalesce_null {α : Type*} (current : Option α) : coalesce (some none) current = current := rfl

lemma coalesce_value {α : Type*} (v : α) (current : Option α) :
    coalesce (some (some v)) current = some v := rfl

/-- `??` takes what is given, unless that is `null` and there is a value already. -/
lemma coalesce_eq_getD_iff {α : Type*} {given : Option (Option α)} {current : Option α} :
    coalesce given current = given.getD current ↔ (given = some none → current = none) := by
  cases given with
  | none => simp [coalesce_absent]
  | some given =>
    cases given with
    | none => simp [coalesce_null]
    | some v => simp [coalesce_value]

end CocoonSit.Client
