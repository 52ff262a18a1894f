import CocoonSit.Prompts.Revisions

/-!
# Where templates are rendered

A round renders the meta template, then the system template with one for the event; compaction and
the reorganization of memories render the template for memory summaries.  Each caller supplies
variables of its own.
-/

namespace CocoonSit

open Table

/-! ## The callers -/

/-- `variables[key] = value`. -/
def setItem (items : List (String × PromptValue)) (key : String) (value : PromptValue) :
    List (String × PromptValue) :=
  if (items.map Prod.fst).contains key then
    items.map fun item => if item.1 = key then (key, value) else item
  else items ++ [(key, value)]

/-- What `build_runtime_prompt_variables` takes from the context of a round. -/
structure RuntimePrompt where
  characterSettings : PromptValue
  conversationTarget : PromptValue
  sessionState : PromptValue
  tagCatalog : PromptValue
  visibleMessages : PromptValue
  memoryContext : PromptValue
  factCache : PromptValue
  taskState : PromptValue
  memoryProfile : PromptValue
  runtimeEvent : PromptValue
  currentTime : PromptValue
  wakeupContext : PromptValue
  pendingWakeups : PromptValue
  mergeContext : PromptValue
  providerCapabilities : PromptValue

def buildRuntimePromptVariables (context : RuntimePrompt) : PromptVariables :=
  [("character_settings", context.characterSettings),
    ("conversation_target", context.conversationTarget),
    ("session_state", context.sessionState),
    ("tag_catalog", context.tagCatalog),
    ("visible_messages", context.visibleMessages),
    ("memory_context", context.memoryContext),
    ("fact_cache", context.factCache),
    ("task_state", context.taskState),
    ("memory_profile", context.memoryProfile),
    ("runtime_event", context.runtimeEvent),
    ("current_time", context.currentTime),
    ("wakeup_context", context.wakeupContext),
    ("pending_wakeups", context.pendingWakeups),
    ("merge_context", context.mergeContext),
    ("provider_capabilities", context.providerCapabilities)]

/-- What the generator takes from the event besides: the memories of a pull, the merge context of a
merge. -/
structure EventPrompt where
  eventType : EventType
  sourceMemories : PromptValue
  mergeContext : PromptValue

def EventPrompt.templateType (event : EventPrompt) : PromptTemplateType :=
  match event.eventType with
  | .pull => .pull
  | .merge => .merge
  | _ => .generator

def EventPrompt.variables (event : EventPrompt) (context : RuntimePrompt) : PromptVariables :=
  match event.eventType with
  | .pull => setItem (buildRuntimePromptVariables context) "memory_context" event.sourceMemories
  | .merge => setItem (buildRuntimePromptVariables context) "merge_context" event.mergeContext
  | _ => buildRuntimePromptVariables context

/-- What `CompactionJobService.execute` supplies. -/
structure CompactionPrompt where
  sessionState : PromptValue
  tagCatalog : PromptValue
  visibleMessages : PromptValue
  memoryContext : PromptValue

def CompactionPrompt.variables (prompt : CompactionPrompt) : PromptVariables :=
  [("session_state", prompt.sessionState),
    ("tag_catalog", prompt.tagCatalog),
    ("visible_messages", prompt.visibleMessages),
    ("memory_context", prompt.memoryContext)]

/-- What `MemoryReorganizeJobService.execute` supplies. -/
structure ReorganizePrompt where
  instructions : Option String := none
  selectedMemories : PromptValue
  tagCatalog : PromptValue

def ReorganizePrompt.variables (prompt : ReorganizePrompt) : PromptVariables :=
  [("instructions", .str ((prompt.instructions.filter (· ≠ "")).getD
      "Consolidate overlap, keep distinct durable memory, archive redundant fragments.")),
    ("selected_memories", prompt.selectedMemories),
    ("tag_catalog", prompt.tagCatalog)]

/-- A call site, with what it is called on. -/
inductive PromptCall where
  | metaNode (context : RuntimePrompt)
  | promptAssembly (context : RuntimePrompt) (event : EventPrompt)
  | compaction (prompt : CompactionPrompt)
  | memoryReorganize (prompt : ReorganizePrompt)

/-- The templates that a call renders, one after the other, with the variables for each. -/
def PromptCall.renders : PromptCall → List (PromptTemplateType × PromptVariables)
  | metaNode context => [(.metaType, buildRuntimePromptVariables context)]
  | promptAssembly context event =>
    [(.system, buildRuntimePromptVariables context),
      (event.templateType, event.variables context)]
  | compaction prompt => [(.memorySummary, prompt.variables)]
  | memoryReorganize prompt => [(.memorySummary, prompt.variables)]

section Render

variable (pyStr dumps : PromptValue → String)

/-- Every call that renders the type goes through. -/
def RendersEverywhere (tables : PromptTables) (templateType : String) : Prop :=
  ∀ call : PromptCall, ∀ rendering ∈ call.renders, rendering.1.value = templateType →
    (render pyStr dumps tables templateType rendering.2).isOk

end Render

/-! ## What is supplied -/

lemma keys_setItem {items : List (String × PromptValue)} {key : String} {value : PromptValue}
    (hkey : key ∈ items.map Prod.fst) : (setItem items key value).map Prod.fst =
      items.map Prod.fst := by
  rw [setItem, if_pos (by simpa using hkey), List.map_map]
  refine List.map_congr_left fun item _ => ?_
  simp only [Function.comp_apply]
  split
  · next heq => exact heq.symm
  · rfl

lemma roundVariables_subset (context : RuntimePrompt) :
    roundVariables ⊆ (buildRuntimePromptVariables context).map Prod.fst := by
  intro key hkey
  simp only [roundVariables, List.mem_cons, List.not_mem_nil, or_false] at hkey
  simp only [buildRuntimePromptVariables, List.map_cons, List.map_nil, List.mem_cons,
    List.not_mem_nil, or_false]
  tauto

lemma keys_eventVariables (event : EventPrompt) (context : RuntimePrompt) :
    (event.variables context).map Prod.fst =
      (buildRuntimePromptVariables context).map Prod.fst := by
  have hmem : ∀ key ∈ roundVariables,
      key ∈ (buildRuntimePromptVariables context).map Prod.fst := roundVariables_subset context
  unfold EventPrompt.variables
  split
  · exact keys_setItem (hmem _ (by simp [roundVariables]))
  · exact keys_setItem (hmem _ (by simp [roundVariables]))
  · rfl

lemma supplied_or_reorganize {call : PromptCall}
    {rendering : PromptTemplateType × PromptVariables} (h : rendering ∈ call.renders) :
    rendering.1.variables ⊆ rendering.2.map Prod.fst ∨
      ∃ prompt, call = .memoryReorganize prompt ∧
        rendering = (.memorySummary, prompt.variables) := by
  cases call with
  | metaNode context =>
    rw [List.mem_singleton.mp h]
    exact .inl (roundVariables_subset context)
  | promptAssembly context event =>
    refine .inl ?_
    rcases List.mem_cons.mp h with rfl | h
    · refine fun key hkey => roundVariables_subset context ?_
      simp only [PromptTemplateType.variables, List.mem_cons, List.not_mem_nil, or_false] at hkey
      simp only [roundVariables, List.mem_cons, List.not_mem_nil, or_false]
      tauto
    · rw [List.mem_singleton.mp h, keys_eventVariables]
      refine fun key hkey => roundVariables_subset context ?_
      cases htype : event.eventType <;>
        simp only [EventPrompt.templateType, htype, PromptTemplateType.variables, roundVariables,
          List.mem_cons, List.not_mem_nil, or_false] at hkey ⊢ <;> tauto
  | compaction prompt =>
    rw [List.mem_singleton.mp h]
    exact .inl fun key hkey => hkey
  | memoryReorganize prompt => exact .inr ⟨prompt, rfl, List.mem_singleton.mp h⟩

lemma supplied_reorganize {prompt : ReorganizePrompt} {key : String}
    (hallowed : key ∈ PromptTemplateType.memorySummary.variables) :
    key ∈ prompt.variables.map Prod.fst ↔ key = "tag_catalog" := by
  simp only [PromptTemplateType.variables, List.mem_cons, List.not_mem_nil, or_false] at hallowed
  rcases hallowed with rfl | rfl | rfl | rfl <;> simp [ReorganizePrompt.variables]

section Render

variable {pyStr dumps : PromptValue → String} {tables tables' : PromptTables}
  {templateType name description content : String} {actorUserId : Option RowId} {ids : PromptIds}

/-- The template that a write has made active renders at every call site, whatever it is called on,
if and only if it is no memory summary that names more than the tag catalog. -/
theorem rendersEverywhere_iff (hnew : ids.revisionId ∉ tables.revisions.map key)
    (h : upsertTemplate tables templateType name description content actorUserId ids =
      .ok tables') :
    RendersEverywhere pyStr dumps tables' templateType ↔
      (templateType = PromptTemplateType.memorySummary.value →
        ∀ key ∈ findPlaceholders content, key = "tag_catalog") := by
  have hallowed := (upsertTemplate_eq_ok_iff.mp h).1
  constructor
  · rintro hall rfl key hkey
    rw [allowedVariables_value] at hallowed
    have hok := hall (.memoryReorganize ⟨none, .null, .null⟩) _ (List.mem_singleton_self _) rfl
    have hsupplied := (render_isOk_iff hnew h).mp hok hkey
    exact (supplied_reorganize (hallowed hkey)).mp hsupplied
  · rintro hsummary call rendering hrendering rfl
    rw [allowedVariables_value] at hallowed
    refine (render_isOk_iff hnew h).mpr fun key hkey => ?_
    rcases supplied_or_reorganize hrendering with hsupplied | ⟨prompt, rfl, rfl⟩
    · exact hsupplied (hallowed hkey)
    · exact (supplied_reorganize (hallowed hkey)).mpr (hsummary rfl key hkey)

end Render

/-- The system template that comes with the program. -/
theorem defaultSystem_rendersEverywhere : ∃ tables', upsertTemplate {} "system" "系统模板" ""
      PromptTemplateType.system.defaultContent none ⟨"template", "revision", by decide⟩ =
        .ok tables' ∧
    ∀ pyStr dumps, RendersEverywhere pyStr dumps tables' "system" := by
  have h : upsertTemplate {} "system" "系统模板" "" PromptTemplateType.system.defaultContent none
      ⟨"template", "revision", by decide⟩ = .ok _ :=
    upsertTemplate_eq_ok_iff.mpr ⟨fun key hkey =>
      defaultVariables_subset .system (mem_findPlaceholders_default.mp hkey), rfl⟩
  exact ⟨_, h, fun pyStr dumps =>
    (rendersEverywhere_iff List.not_mem_nil h).mpr fun heq => absurd heq (by decide)⟩

/-- The memory summary that comes with the program is accepted, and the reorganization of memories
cannot render it. -/
theorem defaultSummary_not_rendersEverywhere :
    ¬ ∀ (pyStr dumps : PromptValue → String) (tables tables' : PromptTables)
        (templateType name description content : String) (actorUserId : Option RowId)
        (ids : PromptIds), ids.revisionId ∉ tables.revisions.map key →
      upsertTemplate tables templateType name description content actorUserId ids = .ok tables' →
        RendersEverywhere pyStr dumps tables' templateType := by
  intro hall
  have h : upsertTemplate {} PromptTemplateType.memorySummary.value "记忆摘要模板" ""
      PromptTemplateType.memorySummary.defaultContent none ⟨"template", "revision", by decide⟩ =
        .ok _ :=
    upsertTemplate_eq_ok_iff.mpr ⟨fun key hkey =>
      defaultVariables_subset .memorySummary (mem_findPlaceholders_default.mp hkey), rfl⟩
  have hok := hall (fun _ => "") (fun _ => "") _ _ _ _ _ _ _ _ List.not_mem_nil h
    (.memoryReorganize ⟨none, .list [], .list []⟩) _ (List.mem_singleton_self _) rfl
  have hnamed : "visible_messages" ∈
      findPlaceholders PromptTemplateType.memorySummary.defaultContent :=
    mem_findPlaceholders_default.mpr (by decide +kernel)
  have hsupplied := (render_isOk_iff List.not_mem_nil h).mp hok hnamed
  exact absurd hsupplied (by decide +kernel)

/-! ## After a start -/

namespace PromptRevisions

/-- There is a template of the type. -/
def Present (tables : PromptTables) (templateType : String) : Prop :=
  templateType ∈ tables.templates.map PromptTemplate.templateType

/-- The keys that a start draws for these types are new, and differ from each other. -/
structure StartDraws (tables : PromptTables) (ids : PromptTemplateType → PromptIds)
    (types : List PromptTemplateType) : Prop where
  templates : ∀ t ∈ types, (ids t).templateId ∉ tables.templates.map PromptTemplate.id
  revisions : ∀ t ∈ types, (ids t).revisionId ∉ tables.revisions.map PromptTemplateRevision.id
  distinct : ∀ t t', (ids t).templateId = (ids t').templateId ∨
    (ids t).revisionId = (ids t').revisionId → t = t'

section Start

variable {pyStr dumps : PromptValue → String} {tables tables' started : PromptTables}
  {templateType name description content : String} {actorUserId : Option RowId} {ids : PromptIds}
  {draws : PromptTemplateType → PromptIds} {types : List PromptTemplateType}
  {t : PromptTemplateType} {values : PromptVariables}

lemma findTemplate_isSome_iff : (findTemplate tables templateType).isSome ↔
    Present tables templateType := by
  rw [findTemplate, List.find?_isSome, Present, List.mem_map]
  exact exists_congr fun row => and_congr_right fun _ => decide_eq_true_iff

lemma present_writeRevision (hpresent : Present tables templateType) {other : String}
    {actorUserId : Option RowId} :
    Present (writeRevision tables other name description content actorUserId ids)
      templateType := by
  have hactivate : ∀ templates id, (update templates id fun row : PromptTemplate =>
      { row with activeRevisionId := some ids.revisionId }).map PromptTemplate.templateType =
        templates.map PromptTemplate.templateType := map_update_of_field _ fun _ => rfl
  have hsave : ∀ templates id, (update templates id fun row : PromptTemplate =>
      { row with name := name, description := description }).map PromptTemplate.templateType =
        templates.map PromptTemplate.templateType := map_update_of_field _ fun _ => rfl
  unfold Present writeRevision saveTemplate at *
  cases findTemplate tables other with
  | none =>
    dsimp only
    rw [hactivate, List.map_append]
    exact List.mem_append_left _ hpresent
  | some found =>
    dsimp only
    rw [hactivate, hsave]
    exact hpresent

lemma rows_writeRevision (hnew : ¬ Present tables templateType)
    (hfresh : ids.templateId ∉ tables.templates.map PromptTemplate.id) :
    ∃ template revision, template.id = ids.templateId ∧ template.templateType = templateType ∧
      revision.id = ids.revisionId ∧
      writeRevision tables templateType name description content actorUserId ids =
        ⟨tables.templates ++ [template], tables.revisions ++ [revision]⟩ := by
  have hnone : findTemplate tables templateType = none := by
    rw [← Option.not_isSome_iff_eq_none, findTemplate_isSome_iff]
    exact hnew
  refine ⟨⟨ids.templateId, templateType, name, description, some ids.revisionId⟩,
    ⟨ids.revisionId, ids.templateId, currentVersion tables ids.templateId + 1, content,
      findPlaceholders content, actorUserId⟩, rfl, rfl, rfl, ?_⟩
  unfold writeRevision saveTemplate
  rw [hnone]
  dsimp only
  congr 1
  rw [update, List.map_append, ← update, update_of_notMem hfresh]
  simp

lemma start_spec (hkept : WellKept tables) (hnodup : types.Nodup)
    (hdraws : StartDraws tables draws types) :
    ∃ started, types.foldlM (fun tables t => ensureDefaultTemplate tables t (draws t)) tables =
        .ok started ∧ WellKept started ∧ tables.templates <+: started.templates ∧
      tables.revisions <+: started.revisions ∧ ∀ t ∈ types, Present started t.value := by
  induction types generalizing tables with
  | nil => exact ⟨tables, rfl, hkept, List.prefix_rfl, List.prefix_rfl, nofun⟩
  | cons t types ih =>
    obtain ⟨hnot, hnodup⟩ := List.nodup_cons.mp hnodup
    -- what is written for `t` is well kept, and leaves the keys of the other types
    obtain ⟨next, hnext, hwell, htemplates, hrevisions, hpresent, hothers⟩ : ∃ next,
        ensureDefaultTemplate tables t (draws t) = .ok next ∧ WellKept next ∧
        tables.templates <+: next.templates ∧ tables.revisions <+: next.revisions ∧
        Present next t.value ∧ StartDraws next draws types := by
      unfold ensureDefaultTemplate
      by_cases hhas : Present tables t.value
      · rw [if_pos (findTemplate_isSome_iff.mpr hhas)]
        exact ⟨tables, rfl, hkept, List.prefix_rfl, List.prefix_rfl, hhas,
          fun t ht => hdraws.templates t (List.mem_cons_of_mem _ ht),
          fun t ht => hdraws.revisions t (List.mem_cons_of_mem _ ht), hdraws.distinct⟩
      · rw [if_neg fun hsome => hhas (findTemplate_isSome_iff.mp hsome)]
        have hallowed : findPlaceholders t.defaultContent ⊆ allowedVariables t.value := by
          rw [allowedVariables_value]
          exact fun key hkey => defaultVariables_subset t (mem_findPlaceholders_default.mp hkey)
        have hfresh := hdraws.templates t List.mem_cons_self
        refine ⟨_, upsertTemplate_eq_ok_iff.mpr ⟨hallowed, rfl⟩, hkept.writeRevision hallowed hfresh
          (hdraws.revisions t List.mem_cons_self), ?_⟩
        obtain ⟨template, revision, hid, htype, hrevision, heq⟩ :=
          @rows_writeRevision tables t.value t.defaultName "" t.defaultContent none _ hhas hfresh
        rw [heq]
        refine ⟨List.prefix_append _ _, List.prefix_append _ _, ?_, ?_, ?_, hdraws.distinct⟩
        · rw [Present, List.map_append, ← htype]
          exact List.mem_append_right _ (List.mem_singleton_self _)
        · intro t' ht' hmem
          rw [List.map_append, List.mem_append, List.map_singleton, List.mem_singleton, hid] at hmem
          refine hmem.elim (hdraws.templates t' (List.mem_cons_of_mem _ ht')) fun hsame => ?_
          exact hnot (hdraws.distinct t' t (.inl hsame) ▸ ht')
        · intro t' ht' hmem
          rw [List.map_append, List.mem_append, List.map_singleton, List.mem_singleton,
            hrevision] at hmem
          refine hmem.elim (hdraws.revisions t' (List.mem_cons_of_mem _ ht')) fun hsame => ?_
          exact hnot (hdraws.distinct t' t (.inr hsame) ▸ ht')
    obtain ⟨started, hstarted, hkept', htemplates', hrevisions', hall⟩ := ih hwell hnodup hothers
    refine ⟨started, ?_, hkept', htemplates.trans htemplates', hrevisions.trans hrevisions', ?_⟩
    · rw [List.foldlM_cons, hnext]
      exact hstarted
    · exact List.forall_mem_cons.mpr ⟨(htemplates'.map _).subset hpresent, hall⟩

lemma render_of_wellKept (hkept : WellKept tables) (hpresent : Present tables t.value)
    (hsupplied : t.variables ⊆ values.map Prod.fst) :
    (render pyStr dumps tables t.value values).isOk := by
  obtain ⟨template, hfind⟩ :=
    Option.isSome_iff_exists.mp (findTemplate_isSome_iff.mpr hpresent)
  have htype : template.templateType = t.value := by simpa using List.find?_some hfind
  have hnumbered := hkept.numbered template (List.mem_of_find?_eq_some hfind)
  obtain ⟨newest, hlast, hactive⟩ := hnumbered.active
  obtain ⟨hnamed, hallowed⟩ := hnumbered.placeholders newest (List.mem_of_getLast? hlast)
  rw [htype, allowedVariables_value] at hallowed
  rw [render, getTemplate, hfind]
  dsimp only
  rw [hactive]
  dsimp only
  rw [renderRevision_isOk_iff, ← hnamed, and_self]
  exact fun key hkey => hsupplied (hallowed hkey)

/-- A start succeeds whatever has been written before, keeps it, and leaves a template of each type.
From then on, whatever is written, no round and no compaction fails to render its templates. -/
theorem renders_after_start {before : List Event}
    (hbefore : TransitionSystem.run step {} before = some tables)
    (hdraws : StartDraws tables draws promptTemplateTypes) :
    ∃ started, ensureDefaultTemplates tables draws = .ok started ∧
      tables.templates <+: started.templates ∧ tables.revisions <+: started.revisions ∧
      ∀ after later, TransitionSystem.run step started after = some later →
        ∀ call : PromptCall, (∀ prompt, call ≠ .memoryReorganize prompt) →
          ∀ rendering ∈ call.renders,
            (render pyStr dumps later rendering.1.value rendering.2).isOk := by
  obtain ⟨started, hstarted, hkept, htemplates, hrevisions, hall⟩ :=
    start_spec (wellKept_run wellKept_empty hbefore) (by decide) hdraws
  refine ⟨started, hstarted, htemplates, hrevisions, fun after later hafter call hcall => ?_⟩
  rintro ⟨t, values⟩ hrendering
  have ht : t ∈ promptTemplateTypes := by cases t <;> decide
  have hpresent : Present later t.value := by
    refine TransitionSystem.invariant_run (Present · t.value) (fun _ _ _ hpresent hstep => ?_)
      (hall t ht) hafter
    obtain ⟨-, rfl | ⟨-, _, _, _, _, -, rfl⟩⟩ := step_cases hstep
    · exact hpresent
    · exact present_writeRevision hpresent
  refine render_of_wellKept (wellKept_run hkept hafter) hpresent ?_
  refine (supplied_or_reorganize hrendering).resolve_right ?_
  rintro ⟨prompt, hreorganize, -⟩
  exact hcall prompt hreorganize

end Start

def valueIds (t : PromptTemplateType) : PromptIds where
  templateId := t.value
  revisionId := t.value
  revisionId_ne := by cases t <;> decide

theorem firstStart_renders :
    ∃ started, ensureDefaultTemplates {} valueIds = .ok started ∧
      [] <+: started.templates ∧ [] <+: started.revisions ∧
      ∀ after later, TransitionSystem.run step started after = some later →
        ∀ call : PromptCall, (∀ prompt, call ≠ .memoryReorganize prompt) →
          ∀ rendering ∈ call.renders,
            (render (fun _ => "") (fun _ => "") later rendering.1.value rendering.2).isOk :=
  @renders_after_start (fun _ => "") (fun _ => "") {} valueIds [] rfl ⟨nofun, nofun, by
    intro t t'
    cases t <;> cases t' <;> decide⟩

end PromptRevisions

end CocoonSit
