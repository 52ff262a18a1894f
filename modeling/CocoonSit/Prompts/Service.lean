import CocoonSit.Prompts.Templates

/-!
# The prompt template service

Templates are kept with all their revisions, the newest of which is active.  What is rendered is
the active revision, after a check that the caller supplies every variable it names.
-/

namespace CocoonSit

open Table

/-! ## The tables -/

/-- `prompt_templates`. -/
structure PromptTemplate where
  id : RowId
  templateType : String
  name : String
  description : String := ""
  activeRevisionId : Option RowId := none
deriving DecidableEq, Repr

/-- `prompt_template_revisions`. -/
structure PromptTemplateRevision where
  id : RowId
  templateId : RowId
  version : ℕ
  content : String
  variablesJson : List String
  createdByUserId : Option RowId := none
deriving DecidableEq, Repr

instance : Keyed PromptTemplate RowId := ⟨PromptTemplate.id⟩
instance : Keyed PromptTemplateRevision RowId := ⟨PromptTemplateRevision.id⟩

@[simp] lemma key_promptTemplate (row : PromptTemplate) : key row = row.id := rfl

@[simp] lemma key_promptRevision (row : PromptTemplateRevision) : key row = row.id := rfl

structure PromptTables where
  templates : List PromptTemplate := []
  revisions : List PromptTemplateRevision := []

/-- The row ids that a write draws. -/
structure PromptIds where
  templateId : RowId
  revisionId : RowId
  revisionId_ne : revisionId ≠ "" := by decide

/-! ## `PromptRevisionService` -/

/-- `session.scalar(select(PromptTemplate).where(PromptTemplate.template_type ==
template_type))`. -/
def findTemplate (tables : PromptTables) (templateType : String) : Option PromptTemplate :=
  tables.templates.find? fun template => template.templateType = templateType

def getTemplate (tables : PromptTables) (templateType : String) :
    Except HttpError PromptTemplate :=
  match findTemplate tables templateType with
  | none => .error ⟨404, "Template not found"⟩
  | some template => .ok template

def getActiveRevision (tables : PromptTables) (template : PromptTemplate) :
    Option PromptTemplateRevision :=
  (template.activeRevisionId.filter (· ≠ "")).bind (get tables.revisions)

/-- The names in the content that the type does not allow. -/
def unknownVariables (templateType content : String) : List String :=
  (findPlaceholders content).filter fun name => !(allowedVariables templateType).contains name

def checkVariables (templateType content : String) : Except HttpError Unit :=
  let unknown := unknownVariables templateType content
  if unknown = [] then .ok ()
  else .error ⟨422, "Unknown prompt variables: " ++ String.intercalate ", " unknown⟩

/-- The template of the type, new or with its new name and description. -/
def saveTemplate (tables : PromptTables) (templateType name description : String)
    (templateId : RowId) : PromptTemplate × List PromptTemplate :=
  match findTemplate tables templateType with
  | none =>
    let template : PromptTemplate :=
      { id := templateId, templateType := templateType, name := name, description := description }
    (template, tables.templates ++ [template])
  | some template =>
    ({ template with name := name, description := description },
      update tables.templates template.id fun row =>
        { row with name := name, description := description })

/-- The highest version of the template so far. -/
def currentVersion (tables : PromptTables) (templateId : RowId) : ℕ :=
  ((tables.revisions.filter fun revision => revision.templateId = templateId).map
    PromptTemplateRevision.version).foldr max 0

/-- The rows that `upsert_template` writes once the content has passed. -/
def writeRevision (tables : PromptTables) (templateType name description content : String)
    (actorUserId : Option RowId) (ids : PromptIds) : PromptTables :=
  let (template, templates) := saveTemplate tables templateType name description ids.templateId
  let revision : PromptTemplateRevision :=
    { id := ids.revisionId
      templateId := template.id
      version := currentVersion tables template.id + 1
      content := content
      variablesJson := findPlaceholders content
      createdByUserId := actorUserId }
  { templates := update templates template.id fun row =>
      { row with activeRevisionId := some revision.id }
    revisions := tables.revisions ++ [revision] }

def upsertTemplate (tables : PromptTables) (templateType name description content : String)
    (actorUserId : Option RowId) (ids : PromptIds) : Except HttpError PromptTables :=
  (checkVariables templateType content).map fun _ =>
    writeRevision tables templateType name description content actorUserId ids

/-- `get_default_template_payload`: name, description and content. -/
def getDefaultTemplatePayload (templateType : String) : Option (String × String × String) :=
  (promptTemplateTypes.find? fun t => t.value = templateType).map fun t =>
    (t.defaultName, "", t.defaultContent)

def resetTemplate (tables : PromptTables) (templateType : String) (actorUserId : Option RowId)
    (ids : PromptIds) : Except HttpError PromptTables :=
  match getDefaultTemplatePayload templateType with
  | none => .error ⟨404, "Template not found"⟩
  | some (name, description, content) =>
    upsertTemplate tables templateType name description content actorUserId ids

/-- A default template, where there is none of its type. -/
def ensureDefaultTemplate (tables : PromptTables) (t : PromptTemplateType) (ids : PromptIds) :
    Except HttpError PromptTables :=
  if (findTemplate tables t.value).isSome then .ok tables
  else upsertTemplate tables t.value t.defaultName "" t.defaultContent none ids

/-- `ensure_default_templates`, with the ids drawn for each type. -/
def ensureDefaultTemplates (tables : PromptTables) (ids : PromptTemplateType → PromptIds) :
    Except HttpError PromptTables :=
  promptTemplateTypes.foldlM (fun tables t => ensureDefaultTemplate tables t (ids t)) tables

/-! ## `PromptRenderService` -/

/-- What a caller of `render` may have to catch. -/
inductive RenderError where
  | http (error : HttpError)
  | key (error : KeyError)

/-- The names in the revision that are not supplied. -/
def missingVariables (revision : PromptTemplateRevision) (values : PromptVariables) :
    List String :=
  revision.variablesJson.filter fun name => !(values.map Prod.fst).contains name

/-- What was rendered: the rows, the redacted values and the text. -/
structure RenderedTemplate where
  template : PromptTemplate
  revision : PromptTemplateRevision
  snapshot : PromptVariables
  rendered : String

section Render

variable (pyStr dumps : PromptValue → String)

/-- The active revision with all it names supplied. -/
def renderRevision (template : PromptTemplate) (revision : PromptTemplateRevision)
    (values : PromptVariables) : Except RenderError RenderedTemplate :=
  let missing := missingVariables revision values
  if missing = [] then
    let snapshot := sanitizeItems values
    ((renderTemplate pyStr dumps revision.content snapshot).mapError .key).map
      fun rendered => ⟨template, revision, snapshot, rendered⟩
  else
    .error (.http ⟨422, "Missing prompt variables: " ++ String.intercalate ", " missing⟩)

def render (tables : PromptTables) (templateType : String) (values : PromptVariables) :
    Except RenderError RenderedTemplate :=
  match getTemplate tables templateType with
  | .error error => .error (.http error)
  | .ok template =>
    match getActiveRevision tables template with
    | none => .error (.http ⟨500, "No active revision"⟩)
    | some revision => renderRevision pyStr dumps template revision values

end Render

/-! ## What the services promise -/

section Promises

variable {pyStr dumps : PromptValue → String} {tables tables' : PromptTables}
  {templateType name description content : String} {actorUserId : Option RowId} {ids : PromptIds}
  {values : PromptVariables}

lemma checkVariables_eq_ok_iff :
    checkVariables templateType content = .ok () ↔
      findPlaceholders content ⊆ allowedVariables templateType := by
  have hunknown : unknownVariables templateType content = [] ↔
      findPlaceholders content ⊆ allowedVariables templateType := by
    simp [unknownVariables, List.filter_eq_nil_iff, List.subset_def]
  rw [← hunknown, checkVariables]
  by_cases h : unknownVariables templateType content = []
  · exact iff_of_true (if_pos h) h
  · exact iff_of_false (by rw [if_neg h]; exact nofun) h

/-- A write goes through if and only if the type allows all the content names. -/
theorem upsertTemplate_eq_ok_iff :
    upsertTemplate tables templateType name description content actorUserId ids = .ok tables' ↔
      findPlaceholders content ⊆ allowedVariables templateType ∧
        tables' = writeRevision tables templateType name description content actorUserId ids := by
  rw [← checkVariables_eq_ok_iff, upsertTemplate, except_map_eq_ok]
  constructor
  · rintro ⟨_, hcheck, rfl⟩
    exact ⟨hcheck, rfl⟩
  · rintro ⟨hcheck, rfl⟩
    exact ⟨(), hcheck, rfl⟩

lemma find?_update_template {templates : List PromptTemplate} {template : PromptTemplate}
    {f : PromptTemplate → PromptTemplate} (hf : ∀ row, (f row).templateType = row.templateType)
    (hfind : (templates.find? fun row => row.templateType = templateType) = some template) :
    ((update templates template.id f).find? fun row => row.templateType = templateType) =
      some (f template) := by
  have hupdate : ((update templates template.id f).find? fun row =>
      row.templateType = templateType) =
        (templates.find? fun row => row.templateType = templateType).map fun row =>
          if key row = template.id then f row else row := find?_update fun row => by rw [hf]
  rw [hupdate, hfind, Option.map_some, if_pos (show key template = template.id from rfl)]

lemma find?_saveTemplate (tables : PromptTables) (templateType name description : String)
    (templateId : RowId) :
    ((saveTemplate tables templateType name description templateId).2.find? fun row =>
        row.templateType = templateType) =
      some (saveTemplate tables templateType name description templateId).1 := by
  unfold saveTemplate
  cases hfind : findTemplate tables templateType with
  | none =>
    have hnone : (tables.templates.find? fun row => row.templateType = templateType) = none :=
      hfind
    simp [List.find?_append, hnone]
  | some template =>
    exact find?_update_template (fun _ => rfl) hfind

lemma active_writeRevision (templateType name description content : String)
    (actorUserId : Option RowId) (hnew : ids.revisionId ∉ tables.revisions.map key) :
    ∃ template revision,
      findTemplate (writeRevision tables templateType name description content actorUserId ids)
        templateType = some template ∧
      getActiveRevision (writeRevision tables templateType name description content actorUserId ids)
        template = some revision ∧
      revision.content = content ∧ revision.variablesJson = findPlaceholders content := by
  set saved := saveTemplate tables templateType name description ids.templateId with hsaved
  set revision : PromptTemplateRevision :=
    { id := ids.revisionId
      templateId := saved.1.id
      version := currentVersion tables saved.1.id + 1
      content := content
      variablesJson := findPlaceholders content
      createdByUserId := actorUserId } with hrevision
  refine ⟨{ saved.1 with activeRevisionId := some ids.revisionId }, revision, ?_, ?_, rfl, rfl⟩
  · have hfind : (saved.2.find? fun row => row.templateType = templateType) = some saved.1 :=
      find?_saveTemplate tables templateType name description ids.templateId
    exact find?_update_template (fun _ => rfl) hfind
  · have hget : get (tables.revisions ++ [revision]) ids.revisionId = some revision := by
      rw [get_append, get_eq_none_iff.mpr hnew, Option.none_or]
      simp [Table.get, hrevision]
    show ((some ids.revisionId).filter (· ≠ "")).bind (get (tables.revisions ++ [revision])) = _
    rw [Option.filter_some_pos (by simpa using ids.revisionId_ne), Option.bind_some, hget]

lemma renderRevision_isOk_iff {template : PromptTemplate} {revision : PromptTemplateRevision} :
    (renderRevision pyStr dumps template revision values).isOk ↔
      revision.variablesJson ⊆ values.map Prod.fst ∧
        findPlaceholders revision.content ⊆ values.map Prod.fst := by
  have hmissing : missingVariables revision values = [] ↔
      revision.variablesJson ⊆ values.map Prod.fst := by
    simp [missingVariables, List.filter_eq_nil_iff, List.subset_def]
  rw [← hmissing, renderRevision]
  by_cases h : missingVariables revision values = []
  · have hrender : (renderTemplate pyStr dumps revision.content (sanitizeItems values)).isOk ↔
        ∀ key ∈ findPlaceholders revision.content, key ∈ values.map Prod.fst := by
      rw [renderTemplate_isOk_iff, keys_sanitizeItems]
    rw [if_pos h, and_iff_right h, List.subset_def, ← hrender]
    dsimp only
    cases renderTemplate pyStr dumps revision.content (sanitizeItems values) with
    | error e => rfl
    | ok text => rfl
  · rw [if_neg h]
    exact iff_of_false (by simp [Except.isOk, Except.toBool]) fun hboth => h hboth.1

/-- After a write, the type is rendered if and only if all the content names are supplied. -/
theorem render_isOk_iff (hnew : ids.revisionId ∉ tables.revisions.map key)
    (h : upsertTemplate tables templateType name description content actorUserId ids =
      .ok tables') :
    (render pyStr dumps tables' templateType values).isOk ↔
      findPlaceholders content ⊆ values.map Prod.fst := by
  obtain ⟨-, rfl⟩ := upsertTemplate_eq_ok_iff.mp h
  obtain ⟨template, revision, hfind, hactive, hcontent, hvariables⟩ :=
    active_writeRevision templateType name description content actorUserId hnew
  rw [render, getTemplate, hfind]
  dsimp only
  rw [hactive]
  dsimp only
  rw [renderRevision_isOk_iff, hcontent, hvariables, and_self]

end Promises

end CocoonSit
