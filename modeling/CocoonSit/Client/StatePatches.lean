import CocoonSit.Client.SessionStore
import CocoonSit.Lib.Run

/-!
# State patches

The client learns of the state of a conversation from websocket events and from reloading the
workspace.  Both end in `applyStatePatch`, with `null` for what has been cleared and nothing for
what has not been reported; the store's `??` does not tell the two apart.
-/

namespace CocoonSit.Client

open TransitionSystem

/-- A `state_patch` event as the handler gets it. -/
structure StatePatchEvent where
  relationScore : ℤ
  personaJson : JsonDict
  activeTags : List RowId
  currentModelId : Option ℕ := none
  currentWakeupTaskId : Option RowId := none

/-- The websocket events of a conversation. -/
inductive RuntimeWsEvent where
  | replyStarted (userMessage : Option MessageRead)
  | replyChunk (delta : String)
  | replyDone (assistantMessage : Option MessageRead)
  | statePatch (event : StatePatchEvent)
  | dispatchQueued (status reason debounceUntil : Option String)
  | roundFailed (errorDetail : String)
  | metaDone
  | pong

/-- The patch that the handler applies for an event. -/
def RuntimeWsEvent.patch? : RuntimeWsEvent → Option StatePatch
  | .replyStarted _ => some { dispatchState := some "running", dispatchReason := some none }
  | .replyDone _ => some { dispatchState := some "idle", dispatchReason := some none }
  | .statePatch event => some
      { relationScore := some (some event.relationScore)
        personaJson := some event.personaJson
        activeTags := some event.activeTags
        currentModelId := some event.currentModelId
        currentWakeupTaskId := some event.currentWakeupTaskId
        dispatchState := some "idle"
        dispatchReason := some none }
  | .dispatchQueued status reason debounceUntil => some
      { dispatchState := some ((status.filter (· ≠ "")).getD "queued")
        dispatchReason := some reason
        debounceUntil := some debounceUntil }
  | .roundFailed _ => some { dispatchState := some "error" }
  | .replyChunk _ | .metaDone | .pong => none

/-- What the handler does to the session before it applies the patch.  What it starts besides, a
reload of the workspace or of the wakeups, comes as an event of its own. -/
def RuntimeWsEvent.prepare : RuntimeWsEvent → ChatSessionState → ChatSessionState
  | .replyStarted userMessage, s =>
    setStreamingAssistant "" (userMessage.elim s fun m => upsertMessage m s)
  | .replyChunk delta, s => appendStreamingAssistant delta s
  | .replyDone assistantMessage, s =>
    setStreamingAssistant "" (assistantMessage.elim s fun m => upsertMessage m s)
  | .roundFailed errorDetail, s => setError (some errorDetail) (setStreamingAssistant "" s)
  | .statePatch _, s | .dispatchQueued .., s | .metaDone, s | .pong, s => s

def handleRuntimeWsEvent (event : RuntimeWsEvent) (s : ChatSessionState) : ChatSessionState :=
  event.patch?.elim (event.prepare s) fun patch => applyStatePatch patch (event.prepare s)

/-! ## Workspace reloads -/

structure SessionStateOut where
  relationScore : ℤ
  personaJson : JsonDict
  activeTagsJson : List RowId
  currentWakeupTaskId : Option RowId

/-- What `getCocoonSessionState` makes of it. -/
structure CocoonSessionState where
  relationScore : ℤ
  personaJson : JsonDict
  activeTags : List RowId
  currentModelId : Option ℕ
  currentWakeupTaskId : Option RowId
  dispatchStatus : Option String
  debounceUntil : Option String

def getCocoonSessionState (state : SessionStateOut) : CocoonSessionState where
  relationScore := state.relationScore
  personaJson := state.personaJson
  activeTags := state.activeTagsJson
  currentModelId := none
  currentWakeupTaskId := state.currentWakeupTaskId
  dispatchStatus := none
  debounceUntil := none

structure CocoonRead where
  selectedModelId : ℕ
  dispatchJobStatus : Option String := none
  dispatchStatus : String := "idle"

/-- What the server answers to the requests of a reload: a cocoon's workspace or a room's. -/
inductive WorkspaceReport where
  | cocoon (item : CocoonRead) (state : SessionStateOut) (messages : List MessageRead)
  | chatGroup (state : SessionStateOut) (messages : List MessageRead)

def WorkspaceReport.messages : WorkspaceReport → List MessageRead
  | .cocoon _ _ messages => messages
  | .chatGroup _ messages => messages

def WorkspaceReport.state : WorkspaceReport → SessionStateOut
  | .cocoon _ state _ => state
  | .chatGroup state _ => state

/-- The patch that `loadWorkspace` applies. -/
def WorkspaceReport.patch : WorkspaceReport → StatePatch
  | .cocoon item state _ =>
    let sessionState := getCocoonSessionState state
    { relationScore := some (some sessionState.relationScore)
      personaJson := some sessionState.personaJson
      activeTags := some sessionState.activeTags
      currentModelId := some (sessionState.currentModelId.or (some item.selectedModelId))
      currentWakeupTaskId := some sessionState.currentWakeupTaskId
      dispatchState := some (((sessionState.dispatchStatus.filter (· ≠ "")).or
        (item.dispatchJobStatus.filter (· ≠ ""))).getD item.dispatchStatus)
      dispatchReason := some none
      debounceUntil := some sessionState.debounceUntil }
  | .chatGroup state _ =>
    { relationScore := some (some state.relationScore)
      personaJson := some state.personaJson
      activeTags := some state.activeTagsJson
      currentWakeupTaskId := some state.currentWakeupTaskId
      dispatchState := some "idle"
      dispatchReason := some none }

/-- `loadWorkspace`, when its requests succeed. -/
def loadWorkspace (report : WorkspaceReport) (s : ChatSessionState) : ChatSessionState :=
  setError none (applyStatePatch report.patch (setMessages report.messages s))

/-! ## Runs -/

/-- What patches a session. -/
inductive PatchEvent where
  | ws (event : RuntimeWsEvent)
  | reload (report : WorkspaceReport)

def PatchEvent.patch? : PatchEvent → Option StatePatch
  | .ws event => event.patch?
  | .reload report => some report.patch

def PatchEvent.apply : PatchEvent → ChatSessionState → ChatSessionState
  | .ws event => handleRuntimeWsEvent event
  | .reload report => loadWorkspace report

/-- An event reaches the session of the open conversation. -/
def step (key : String) (s : Sessions) (e : PatchEvent) : Option Sessions :=
  some (s.modify key e.apply)

/-- The fields of a patch are what it has for them, and the others are what they were. -/
structure Sets (patch : StatePatch) (before after : ChatSessionState) : Prop where
  relationScore : after.relationScore = patch.relationScore.getD before.relationScore
  personaJson : after.personaJson = patch.personaJson.getD before.personaJson
  activeTags : after.activeTags = patch.activeTags.getD before.activeTags
  currentModelId : after.currentModelId = patch.currentModelId.getD before.currentModelId
  currentWakeupTaskId :
    after.currentWakeupTaskId = patch.currentWakeupTaskId.getD before.currentWakeupTaskId
  dispatchState : after.dispatchState = patch.dispatchState.getD before.dispatchState
  dispatchReason : after.dispatchReason = patch.dispatchReason.getD before.dispatchReason
  debounceUntil : after.debounceUntil = patch.debounceUntil.getD before.debounceUntil

/-- The session shows what the server reported for the reload: nothing is left of a dispatch, and
a cocoon has its model. -/
structure Shows (report : WorkspaceReport) (s : ChatSessionState) : Prop where
  relationScore : s.relationScore = some report.state.relationScore
  personaJson : s.personaJson = report.state.personaJson
  activeTags : s.activeTags = report.state.activeTagsJson
  currentWakeupTaskId : s.currentWakeupTaskId = report.state.currentWakeupTaskId
  dispatchReason : s.dispatchReason = none
  cocoon : ∀ item state messages, report = .cocoon item state messages →
    s.currentModelId = some item.selectedModelId ∧ s.debounceUntil = none

/-- What an event should do to the session of a conversation. -/
def Faithful (key : String) (s : Sessions) (e : PatchEvent) (s' : Sessions) : Prop :=
  (∀ patch, e.patch? = some patch → Sets patch (s.session key) (s'.session key)) ∧
    (∀ report, e = .reload report → Shows report (s'.session key)) ∧
    ∀ key', key' ≠ key → s' key' = s key'

/-- `??` has no say: the patch clears nothing that is set, and there is a score. -/
structure ClearsNothing (patch : StatePatch) (s : ChatSessionState) : Prop where
  relationScore : (patch.relationScore.getD s.relationScore).isSome
  currentModelId : patch.currentModelId = some none → s.currentModelId = none
  currentWakeupTaskId : patch.currentWakeupTaskId = some none → s.currentWakeupTaskId = none
  dispatchReason : patch.dispatchReason = some none → s.dispatchReason = none
  debounceUntil : patch.debounceUntil = some none → s.debounceUntil = none

/-- The condition on an event, in the state it comes in. -/
def Harmless (key : String) (s : Sessions) (e : PatchEvent) : Prop :=
  ∀ patch, e.patch? = some patch → ClearsNothing patch (s.session key)

section Patches

variable {patch : StatePatch} {s s' before after after' : ChatSessionState}

lemma score_eq_iff {given : Option (Option ℤ)} {current : Option ℤ} :
    some ((coalesce given current).getD defaultRelationScore) = given.getD current ↔
      (given.getD current).isSome := by
  cases given with
  | none => cases current <;> simp [coalesce_absent]
  | some given => cases given <;> simp [coalesce_null, coalesce_value]

lemma sets_applyStatePatch_iff :
    Sets patch s (applyStatePatch patch s) ↔ ClearsNothing patch s := by
  constructor
  · rintro ⟨hscore, -, -, hmodel, hwakeup, -, hreason, huntil⟩
    exact ⟨score_eq_iff.mp hscore, coalesce_eq_getD_iff.mp hmodel, coalesce_eq_getD_iff.mp hwakeup,
      coalesce_eq_getD_iff.mp hreason, coalesce_eq_getD_iff.mp huntil⟩
  · rintro ⟨hscore, hmodel, hwakeup, hreason, huntil⟩
    exact ⟨score_eq_iff.mpr hscore, rfl, rfl, coalesce_eq_getD_iff.mpr hmodel,
      coalesce_eq_getD_iff.mpr hwakeup, rfl, coalesce_eq_getD_iff.mpr hreason,
      coalesce_eq_getD_iff.mpr huntil⟩

/-- Sessions that agree on what patches are about. -/
structure SameState (s s' : ChatSessionState) : Prop where
  relationScore : s.relationScore = s'.relationScore
  personaJson : s.personaJson = s'.personaJson
  activeTags : s.activeTags = s'.activeTags
  currentModelId : s.currentModelId = s'.currentModelId
  currentWakeupTaskId : s.currentWakeupTaskId = s'.currentWakeupTaskId
  dispatchState : s.dispatchState = s'.dispatchState
  dispatchReason : s.dispatchReason = s'.dispatchReason
  debounceUntil : s.debounceUntil = s'.debounceUntil

lemma sameState_prepare (event : RuntimeWsEvent) (s : ChatSessionState) :
    SameState (event.prepare s) s := by
  cases event with
  | replyStarted userMessage => cases userMessage <;> constructor <;> rfl
  | replyDone assistantMessage => cases assistantMessage <;> constructor <;> rfl
  | replyChunk | statePatch | dispatchQueued | roundFailed | metaDone | pong =>
    constructor <;> rfl

lemma SameState.applyStatePatch (h : SameState s s') :
    SameState (applyStatePatch patch s) (Client.applyStatePatch patch s') where
  relationScore := by simp only [Client.applyStatePatch, h.relationScore]
  personaJson := by simp only [Client.applyStatePatch, h.personaJson]
  activeTags := by simp only [Client.applyStatePatch, h.activeTags]
  currentModelId := by simp only [Client.applyStatePatch, h.currentModelId]
  currentWakeupTaskId := by simp only [Client.applyStatePatch, h.currentWakeupTaskId]
  dispatchState := by simp only [Client.applyStatePatch, h.dispatchState]
  dispatchReason := by simp only [Client.applyStatePatch, h.dispatchReason]
  debounceUntil := by simp only [Client.applyStatePatch, h.debounceUntil]

lemma Sets.congr (hset : Sets patch before after) (h : SameState after after') :
    Sets patch before after' where
  relationScore := h.relationScore.symm.trans hset.relationScore
  personaJson := h.personaJson.symm.trans hset.personaJson
  activeTags := h.activeTags.symm.trans hset.activeTags
  currentModelId := h.currentModelId.symm.trans hset.currentModelId
  currentWakeupTaskId := h.currentWakeupTaskId.symm.trans hset.currentWakeupTaskId
  dispatchState := h.dispatchState.symm.trans hset.dispatchState
  dispatchReason := h.dispatchReason.symm.trans hset.dispatchReason
  debounceUntil := h.debounceUntil.symm.trans hset.debounceUntil

lemma SameState.symm (h : SameState s s') : SameState s' s where
  relationScore := h.relationScore.symm
  personaJson := h.personaJson.symm
  activeTags := h.activeTags.symm
  currentModelId := h.currentModelId.symm
  currentWakeupTaskId := h.currentWakeupTaskId.symm
  dispatchState := h.dispatchState.symm
  dispatchReason := h.dispatchReason.symm
  debounceUntil := h.debounceUntil.symm

lemma sameState_apply {e : PatchEvent} (hpatch : e.patch? = some patch) (s : ChatSessionState) :
    SameState (e.apply s) (applyStatePatch patch s) := by
  cases e with
  | ws event =>
    have hevent : event.patch? = some patch := hpatch
    rw [PatchEvent.apply, handleRuntimeWsEvent, hevent, Option.elim_some]
    exact (sameState_prepare event s).applyStatePatch
  | reload report =>
    cases hpatch
    constructor <;> rfl

lemma Sets.shows {report : WorkspaceReport} (h : Sets report.patch before after) :
    Shows report after := by
  cases report with
  | cocoon item state messages =>
    refine ⟨h.relationScore, h.personaJson, h.activeTags, h.currentWakeupTaskId,
      h.dispatchReason, ?_⟩
    rintro _ _ _ ⟨⟩
    exact ⟨h.currentModelId, h.debounceUntil⟩
  | chatGroup state messages =>
    refine ⟨h.relationScore, h.personaJson, h.activeTags, h.currentWakeupTaskId,
      h.dispatchReason, ?_⟩
    rintro _ _ _ ⟨⟩

end Patches

section Runs

variable {key : String} {s s' : Sessions} {e : PatchEvent}

lemma session_of_step (h : step key s e = some s') : s'.session key = e.apply (s.session key) := by
  cases h
  exact session_modify _

lemma other_of_step (h : step key s e = some s') {key' : String} (hne : key' ≠ key) :
    s' key' = s key' := by
  cases h
  exact modify_other _ hne

lemma sets_of_step_iff {patch : StatePatch} (h : step key s e = some s')
    (hpatch : e.patch? = some patch) :
    Sets patch (s.session key) (s'.session key) ↔ ClearsNothing patch (s.session key) := by
  have hsame := sameState_apply hpatch (s.session key)
  rw [session_of_step h, ← sets_applyStatePatch_iff]
  exact ⟨fun hset => hset.congr hsame, fun hset => hset.congr hsame.symm⟩

lemma faithful_iff (h : step key s e = some s') : Faithful key s e s' ↔ Harmless key s e := by
  constructor
  · rintro ⟨hsets, -, -⟩ patch hpatch
    exact (sets_of_step_iff h hpatch).mp (hsets patch hpatch)
  · intro hharmless
    refine ⟨fun patch hpatch => (sets_of_step_iff h hpatch).mpr (hharmless patch hpatch), ?_,
      fun key' hne => other_of_step h hne⟩
    rintro report rfl
    exact ((sets_of_step_iff h rfl).mpr (hharmless report.patch rfl)).shows

end Runs

/-- Along every sequence of websocket events and reloads, each patch sets exactly the fields it
contains and each reload shows what the server reported, if and only if no patch clears something
that is set. -/
theorem patches_faithful_iff (key : String) (s : Sessions) (events : List PatchEvent) :
    AllSteps (step key) (Faithful key) s events ↔
      StepsMeet (step key) (Harmless key) s events :=
  allSteps_iff_stepsMeet (fun _ => True)
    (fun _ _ _ => ⟨fun hall => (faithful_iff rfl).mp (hall _ rfl),
      fun hok _ hstep => (faithful_iff hstep).mpr hok⟩)
    (fun _ _ _ _ _ _ => trivial) trivial

/-- A state as the server reports it, with or without a wakeup. -/
def reported (currentWakeupTaskId : Option RowId) : SessionStateOut where
  relationScore := 60
  personaJson := .empty
  activeTagsJson := []
  currentWakeupTaskId := currentWakeupTaskId

/-- The workspace is loaded with a wakeup planned, and again when it has run. -/
def wakeupRuns : List PatchEvent :=
  [.reload (.cocoon { selectedModelId := 1 } (reported (some "task-1")) []),
    .reload (.cocoon { selectedModelId := 1 } (reported none) [])]

/-- The client goes on showing the wakeup. -/
theorem wakeupRuns_not_faithful :
    ¬ ∀ key s events, AllSteps (step key) (Faithful key) s events := by
  intro h
  obtain ⟨-, hreload, -⟩ := h "1" (fun _ => none) wakeupRuns
  have hstep := hreload _ rfl
  have hcleared := (hstep.1 _ rfl).currentWakeupTaskId
  cases hcleared

end CocoonSit.Client
