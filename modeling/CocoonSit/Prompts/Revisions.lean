import CocoonSit.Lib.Run
import CocoonSit.Lib.Session
import CocoonSit.Prompts.Service

/-!
# The revisions of a template

`upsert_template` checks the content, saves the template and appends a revision to it, with a flush
after each write; `reset_template` does so with the default content.  Every flush and the commit of
the request may be refused.
-/

namespace CocoonSit

open Table TransitionSystem SessionM

namespace PromptRevisions

/-! ## The requests -/

/-- What a request raises. -/
inductive WriteError where
  | http (error : HttpError)
  /-- A flush is refused. -/
  | database

/-- Which flushes are refused, and whether the commit is. -/
structure Refusals where
  template : Bool := false
  revision : Bool := false
  activeRevision : Bool := false
  commit : Bool := false

/-- A program over the session of a request. -/
abbrev PromptM := SessionM PromptTables WriteError

def raiseHttp {α : Type} (result : Except HttpError α) : PromptM α :=
  check (result.mapError .http)

/-- The template of the type: the one there is, with its new name and description, or a new one. -/
def saveTemplateM (templateType name description : String) (templateId : RowId)
    (refusals : Refusals) : PromptM PromptTemplate := do
  let tables ← work
  match findTemplate tables templateType with
  | none =>
    let template : PromptTemplate :=
      { id := templateId, templateType := templateType, name := name, description := description }
    change fun tables => { tables with templates := tables.templates ++ [template] }
    flush refusals.template .database
    pure template
  | some template =>
    change fun tables => { tables with
      templates := update tables.templates template.id fun row =>
        { row with name := name, description := description } }
    flush refusals.template .database
    pure { template with name := name, description := description }

/-- `PromptRevisionService.upsert_template`. -/
def upsertTemplateM (templateType name description content : String) (actorUserId : Option RowId)
    (ids : PromptIds) (refusals : Refusals) : PromptM PromptTemplate := do
  raiseHttp (checkVariables templateType content)
  let template ← saveTemplateM templateType name description ids.templateId refusals
  let tables ← work
  let revision : PromptTemplateRevision :=
    { id := ids.revisionId
      templateId := template.id
      version := currentVersion tables template.id + 1
      content := content
      variablesJson := findPlaceholders content
      createdByUserId := actorUserId }
  change fun tables => { tables with revisions := tables.revisions ++ [revision] }
  flush refusals.revision .database
  change fun tables => { tables with
    templates := update tables.templates template.id fun row =>
      { row with activeRevisionId := some revision.id } }
  flush refusals.activeRevision .database
  pure { template with activeRevisionId := some revision.id }

/-- `PromptRevisionService.reset_template`. -/
def resetTemplateM (templateType : String) (actorUserId : Option RowId) (ids : PromptIds)
    (refusals : Refusals) : PromptM PromptTemplate :=
  match getDefaultTemplatePayload templateType with
  | none => raiseHttp (.error ⟨404, "Template not found"⟩)
  | some (name, description, content) =>
    upsertTemplateM templateType name description content actorUserId ids refusals

/-- What is asked for. -/
inductive Request where
  | upsert (templateType name description content : String)
  | reset (templateType : String)

/-- A request, by whom it is made and the keys and refusals it meets. -/
structure Event where
  request : Request
  actorUserId : Option RowId := none
  ids : PromptIds
  refusals : Refusals := {}

/-- The request's program. -/
def Event.program (event : Event) : PromptM PromptTemplate :=
  match event.request with
  | .upsert templateType name description content =>
    upsertTemplateM templateType name description content event.actorUserId event.ids
      event.refusals
  | .reset templateType => resetTemplateM templateType event.actorUserId event.ids event.refusals

/-- The program raises. -/
def Event.Rejected (event : Event) (tables : PromptTables) : Prop :=
  ∃ error, (run event.program { work := tables }).1 = .error error

/-- The keys have not been used. -/
def Event.Fresh (event : Event) (tables : PromptTables) : Prop :=
  event.ids.templateId ∉ tables.templates.map PromptTemplate.id ∧
    event.ids.revisionId ∉ tables.revisions.map PromptTemplateRevision.id

instance (event : Event) (tables : PromptTables) : Decidable (event.Fresh tables) :=
  inferInstanceAs (Decidable (_ ∧ _))

/-- A request runs and is committed.  Where it raises, the session is rolled back; it is committed
here all the same, which stores nothing. -/
def step (tables : PromptTables) (event : Event) : Option PromptTables :=
  if event.Fresh tables then
    some (committed tables event.refusals.commit (run event.program { work := tables }).2)
  else none

/-! ## What a request comes to -/

section Programs

variable {tables tables' : PromptTables} {templateType name description content : String}
  {actorUserId : Option RowId} {ids : PromptIds} {refusals : Refusals} {event : Event}

lemma tight_saveTemplateM (templateId : RowId) :
    Tight (saveTemplateM templateType name description templateId refusals) := by
  intro s error s' hrun
  unfold saveTemplateM at hrun
  rw [run_work_bind] at hrun
  cases hfind : findTemplate s.work templateType with
  | none =>
    rw [hfind] at hrun
    exact (Tight.bind (tight_change _) fun _ =>
      (tight_flush _ _).bind fun _ => tight_pure _) _ _ _ hrun
  | some template =>
    rw [hfind] at hrun
    exact (Tight.bind (tight_change _) fun _ =>
      (tight_flush _ _).bind fun _ => tight_pure _) _ _ _ hrun

lemma clean_upsertTemplateM :
    Clean (upsertTemplateM templateType name description content actorUserId ids refusals) := by
  refine (readOnly_check _).clean_bind fun _ => Tight.clean ?_
  refine (tight_saveTemplateM _).bind fun template => ?_
  intro s error s' hrun
  rw [run_work_bind] at hrun
  refine (Tight.bind (tight_change _) fun _ => ?_) _ _ _ hrun
  refine (tight_flush _ _).bind fun _ => (tight_change _).bind fun _ => ?_
  exact (tight_flush _ _).bind fun _ => tight_pure _

lemma clean_program : Clean event.program := by
  unfold Event.program
  cases event.request with
  | upsert templateType name description content => exact clean_upsertTemplateM
  | reset templateType =>
    unfold resetTemplateM
    dsimp only
    cases getDefaultTemplatePayload templateType with
    | none => exact (readOnly_check _).clean
    | some payload => exact clean_upsertTemplateM

lemma returns_saveTemplateM_bind {s : Session PromptTables} {α : Type} {templateId : RowId}
    (f : PromptTemplate → PromptM α) (P : Session PromptTables → Prop) :
    Returns (saveTemplateM templateType name description templateId refusals >>= f) s P ↔
      refusals.template = false ∧
        Returns (f (saveTemplate s.work templateType name description templateId).1)
          { s with work := { s.work with
              templates :=
                (saveTemplate s.work templateType name description templateId).2 } } P := by
  unfold saveTemplateM saveTemplate
  rw [bind_assoc, returns_work_bind]
  cases findTemplate s.work templateType with
  | none =>
    dsimp only
    rw [bind_assoc, returns_change_bind, bind_assoc, returns_flush_bind, pure_bind]
  | some template =>
    dsimp only
    rw [bind_assoc, returns_change_bind, bind_assoc, returns_flush_bind, pure_bind]

lemma work_upsertTemplateM {template : PromptTemplate} {s : Session PromptTables}
    (hrun : run (upsertTemplateM templateType name description content actorUserId ids refusals)
      { work := tables } = (.ok template, s)) :
    findPlaceholders content ⊆ allowedVariables templateType ∧
      s.work = writeRevision tables templateType name description content actorUserId ids := by
  have hreturns : Returns (upsertTemplateM templateType name description content actorUserId ids
      refusals) { work := tables } fun s' => s' = s := ⟨template, s, hrun, rfl⟩
  unfold upsertTemplateM raiseHttp at hreturns
  rw [returns_check_bind] at hreturns
  obtain ⟨_, hcheck, hreturns⟩ := hreturns
  rw [returns_saveTemplateM_bind] at hreturns
  simp only [returns_work_bind, returns_change_bind, returns_flush_bind, returns_pure] at hreturns
  obtain ⟨-, -, -, rfl⟩ := hreturns
  refine ⟨?_, rfl⟩
  rw [← checkVariables_eq_ok_iff]
  cases hvariables : checkVariables templateType content with
  | error error =>
    rw [hvariables] at hcheck
    cases hcheck
  | ok _ => rfl

lemma step_cases (hstep : step tables event = some tables') :
    event.Fresh tables ∧ (tables' = tables ∨ (¬ event.Rejected tables ∧
      ∃ templateType name description content,
        findPlaceholders content ⊆ allowedVariables templateType ∧
        tables' = writeRevision tables templateType name description content event.actorUserId
          event.ids)) := by
  unfold step at hstep
  split at hstep
  · next hfresh =>
    refine ⟨hfresh, ?_⟩
    cases hstep
    rcases hrun : run event.program { work := tables } with ⟨error | template, s⟩
    · exact .inl (clean_program.committed_of_error hrun _)
    · have haccepted : ¬ event.Rejected tables := by
        rintro ⟨error, herror⟩
        rw [hrun] at herror
        cases herror
      unfold committed
      dsimp only
      split
      · exact .inl rfl
      · refine .inr ⟨haccepted, ?_⟩
        unfold Event.program at hrun
        cases hrequest : event.request with
        | upsert templateType name description content =>
          rw [hrequest] at hrun
          exact ⟨templateType, name, description, content, work_upsertTemplateM hrun⟩
        | reset templateType =>
          rw [hrequest] at hrun
          dsimp only [resetTemplateM] at hrun
          cases hdefault : getDefaultTemplatePayload templateType with
          | none =>
            rw [hdefault] at hrun
            cases hrun
          | some payload =>
            rw [hdefault] at hrun
            exact ⟨_, _, _, _, work_upsertTemplateM hrun⟩
  · cases hstep

end Programs

/-! ## The invariant -/

/-- The revisions of a template, in the order they have been written. -/
def revisionsOf (tables : PromptTables) (templateId : RowId) : List PromptTemplateRevision :=
  tables.revisions.filter fun revision => revision.templateId = templateId

/-- What is promised of a template. -/
structure Numbered (tables : PromptTables) (template : PromptTemplate) : Prop where
  versions : (revisionsOf tables template.id).map PromptTemplateRevision.version =
    List.range' 1 (revisionsOf tables template.id).length
  active : ∃ newest, (revisionsOf tables template.id).getLast? = some newest ∧
    getActiveRevision tables template = some newest
  placeholders : ∀ revision ∈ revisionsOf tables template.id,
    revision.variablesJson = findPlaceholders revision.content ∧
      revision.variablesJson ⊆ allowedVariables template.templateType

/-- What every run keeps. -/
structure WellKept (tables : PromptTables) : Prop where
  templateTypes : (tables.templates.map PromptTemplate.templateType).Nodup
  templateIds : (tables.templates.map PromptTemplate.id).Nodup
  owned : ∀ revision ∈ tables.revisions,
    revision.templateId ∈ tables.templates.map PromptTemplate.id
  numbered : ∀ template ∈ tables.templates, Numbered tables template

section Invariant

variable {tables tables' : PromptTables} {templateType name description content : String}
  {actorUserId : Option RowId} {ids : PromptIds} {template : PromptTemplate} {event : Event}

lemma foldr_max_range' (first n : ℕ) : (List.range' first (n + 1)).foldr max 0 = first + n := by
  induction n generalizing first with
  | zero => simp
  | succ n ih =>
    rw [List.range'_succ, List.foldr_cons, ih]
    omega

lemma currentVersion_eq {templateId : RowId}
    (hversions : (revisionsOf tables templateId).map PromptTemplateRevision.version =
      List.range' 1 (revisionsOf tables templateId).length) :
    currentVersion tables templateId = (revisionsOf tables templateId).length := by
  have hfold : currentVersion tables templateId =
      (List.range' 1 (revisionsOf tables templateId).length).foldr max 0 := by
    rw [← hversions]
    rfl
  rw [hfold]
  cases (revisionsOf tables templateId).length with
  | zero => rfl
  | succ n => rw [foldr_max_range', Nat.add_comm]

lemma map_update_of_field {α : Type} (field : PromptTemplate → α)
    {f : PromptTemplate → PromptTemplate} (hf : ∀ row, field (f row) = field row)
    (templates : List PromptTemplate) (id : RowId) :
    (update templates id f).map field = templates.map field := by
  unfold update
  rw [List.map_map]
  refine List.map_congr_left fun row _ => ?_
  dsimp only [Function.comp]
  split
  · exact hf row
  · rfl

lemma saveTemplate_spec (templateType name description : String) (hkept : WellKept tables)
    (hfresh : ids.templateId ∉ tables.templates.map PromptTemplate.id) :
    ((saveTemplate tables templateType name description ids.templateId).2.map
        PromptTemplate.templateType).Nodup ∧
      ((saveTemplate tables templateType name description ids.templateId).2.map
        PromptTemplate.id).Nodup ∧
      (∀ row ∈ tables.templates,
        row.id = (saveTemplate tables templateType name description ids.templateId).1.id →
          row.templateType = templateType) ∧
      (∀ row, row ∈ (saveTemplate tables templateType name description ids.templateId).2 ↔
        row = (saveTemplate tables templateType name description ids.templateId).1 ∨
          row ∈ tables.templates ∧
            row.id ≠ (saveTemplate tables templateType name description ids.templateId).1.id) ∧
      (saveTemplate tables templateType name description ids.templateId).1.templateType =
        templateType := by
  unfold saveTemplate
  cases hfind : findTemplate tables templateType with
  | none =>
    have hnew : templateType ∉ tables.templates.map PromptTemplate.templateType := by
      intro hmem
      obtain ⟨row, hrow, htype⟩ := List.mem_map.mp hmem
      have hnone := List.find?_eq_none.mp hfind row hrow
      exact hnone (decide_eq_true htype)
    have hids : ∀ row ∈ tables.templates, row.id ≠ ids.templateId := fun row hrow heq =>
      hfresh (List.mem_map.mpr ⟨row, hrow, heq⟩)
    refine ⟨?_, ?_, fun row hrow hid => absurd hid (hids row hrow), fun row => ?_, rfl⟩
    · rw [List.map_append]
      exact hkept.templateTypes.append (List.nodup_singleton _)
        (List.disjoint_singleton.mpr hnew)
    · rw [List.map_append]
      exact hkept.templateIds.append (List.nodup_singleton _)
        (List.disjoint_singleton.mpr hfresh)
    · rw [List.mem_append, List.mem_singleton, or_comm]
      exact or_congr_right ⟨fun hrow => ⟨hrow, hids row hrow⟩, And.left⟩
  | some found =>
    have hfound : found ∈ tables.templates := List.mem_of_find?_eq_some hfind
    have htype : found.templateType = templateType := by simpa using List.find?_some hfind
    have hrow : ∀ row ∈ tables.templates, row.id = found.id → row = found := fun row hrow hid =>
      List.inj_on_of_nodup_map hkept.templateIds hrow hfound hid
    refine ⟨?_, ?_, fun row hmem hid => (hrow row hmem hid).symm ▸ htype, fun row => ?_, htype⟩
    · dsimp only
      rw [map_update_of_field PromptTemplate.templateType
        (f := fun row => { row with name := name, description := description }) fun _ => rfl]
      exact hkept.templateTypes
    · dsimp only
      rw [map_update_of_field PromptTemplate.id
        (f := fun row => { row with name := name, description := description }) fun _ => rfl]
      exact hkept.templateIds
    · rw [mem_update]
      refine or_congr ⟨?_, fun heq => ⟨found, hfound, rfl, heq.symm⟩⟩ Iff.rfl
      rintro ⟨row₀, hrow₀, hkey, rfl⟩
      rw [hrow row₀ hrow₀ hkey]

lemma numbered_saved {saved : PromptTemplate} {templates : List PromptTemplate}
    (hkept : WellKept tables)
    (hold : ∀ row ∈ tables.templates, row.id = saved.id → row.templateType = templateType)
    (htype : saved.templateType = templateType)
    (hallowed : findPlaceholders content ⊆ allowedVariables templateType)
    (hfresh : ids.revisionId ∉ tables.revisions.map PromptTemplateRevision.id) :
    Numbered
      { templates := templates
        revisions := tables.revisions ++
          [⟨ids.revisionId, saved.id, currentVersion tables saved.id + 1, content,
            findPlaceholders content, actorUserId⟩] }
      { saved with activeRevisionId := some ids.revisionId } := by
  have hrevisions : ∀ (revision : PromptTemplateRevision), revision.templateId = saved.id →
      revisionsOf ⟨templates, tables.revisions ++ [revision]⟩ saved.id =
        revisionsOf tables saved.id ++ [revision] := by
    intro revision hid
    unfold revisionsOf
    rw [List.filter_append, List.filter_cons_of_pos (by simpa using hid), List.filter_nil]
  -- the revisions before, of which there are none for a new template
  obtain ⟨hversions, hbefore⟩ : (revisionsOf tables saved.id).map PromptTemplateRevision.version =
        List.range' 1 (revisionsOf tables saved.id).length ∧
      ∀ revision ∈ revisionsOf tables saved.id,
        revision.variablesJson = findPlaceholders revision.content ∧
          revision.variablesJson ⊆ allowedVariables templateType := by
    by_cases hmem : saved.id ∈ tables.templates.map PromptTemplate.id
    · obtain ⟨row, hrow, hid⟩ := List.mem_map.mp hmem
      have hnumbered := hkept.numbered row hrow
      rw [← hid, ← hold row hrow hid]
      exact ⟨hnumbered.versions, hnumbered.placeholders⟩
    · have hnone : revisionsOf tables saved.id = [] := by
        refine List.filter_eq_nil_iff.mpr fun revision hrevision hid => hmem ?_
        rw [← of_decide_eq_true hid]
        exact hkept.owned revision hrevision
      rw [hnone]
      exact ⟨rfl, fun revision hrevision => absurd hrevision List.not_mem_nil⟩
  refine ⟨?_, ?_, ?_⟩
  · dsimp only
    rw [hrevisions _ rfl, List.map_append, hversions, List.length_append, List.length_singleton,
      List.range'_1_concat, currentVersion_eq hversions, Nat.add_comm 1]
    rfl
  · dsimp only
    refine ⟨_, by rw [hrevisions _ rfl, List.getLast?_concat], ?_⟩
    unfold getActiveRevision
    rw [Option.filter_some_pos (by simpa using ids.revisionId_ne), Option.bind_some, get_append,
      get_eq_none_iff.mpr hfresh, Option.none_or]
    simp [Table.get]
  · dsimp only
    rw [hrevisions _ rfl, htype]
    intro revision hrevision
    rcases List.mem_append.mp hrevision with hrevision | hrevision
    · exact hbefore revision hrevision
    · rw [List.mem_singleton.mp hrevision]
      exact ⟨rfl, hallowed⟩

lemma numbered_other {templates : List PromptTemplate} {revision : PromptTemplateRevision}
    (hkept : WellKept tables) (hmem : template ∈ tables.templates)
    (hid : template.id ≠ revision.templateId) :
    Numbered ⟨templates, tables.revisions ++ [revision]⟩ template := by
  have hnumbered := hkept.numbered template hmem
  have hrevisions : revisionsOf ⟨templates, tables.revisions ++ [revision]⟩ template.id =
      revisionsOf tables template.id := by
    unfold revisionsOf
    rw [List.filter_append, List.filter_cons_of_neg (by simpa using fun h => hid h.symm),
      List.filter_nil, List.append_nil]
  obtain ⟨newest, hnewest, hactive⟩ := hnumbered.active
  refine ⟨?_, ⟨newest, hrevisions ▸ hnewest, ?_⟩, hrevisions ▸ hnumbered.placeholders⟩
  · rw [hrevisions]
    exact hnumbered.versions
  · unfold getActiveRevision at hactive ⊢
    obtain ⟨id, hfilter, hget⟩ := Option.bind_eq_some_iff.mp hactive
    rw [hfilter, Option.bind_some, get_append, hget, Option.some_or]

lemma WellKept.writeRevision (hkept : WellKept tables)
    (hallowed : findPlaceholders content ⊆ allowedVariables templateType)
    (htemplate : ids.templateId ∉ tables.templates.map PromptTemplate.id)
    (hrevision : ids.revisionId ∉ tables.revisions.map PromptTemplateRevision.id) :
    WellKept (writeRevision tables templateType name description content actorUserId ids) := by
  obtain ⟨htypes, hids, hold, hrows, htype⟩ := saveTemplate_spec templateType name
    description hkept htemplate
  unfold CocoonSit.writeRevision
  generalize saveTemplate tables templateType name description ids.templateId = saved at *
  obtain ⟨saved, templates⟩ := saved
  dsimp only at *
  set revision : PromptTemplateRevision :=
    { id := ids.revisionId
      templateId := saved.id
      version := currentVersion tables saved.id + 1
      content := content
      variablesJson := findPlaceholders content
      createdByUserId := actorUserId } with hnew
  have hsaved : saved.id ∈ templates.map PromptTemplate.id :=
    List.mem_map_of_mem ((hrows saved).mpr (.inl rfl))
  have hactivate : ∀ {α : Type} (field : PromptTemplate → α),
      (∀ row, field { row with activeRevisionId := some ids.revisionId } = field row) →
        (update templates saved.id fun row =>
          { row with activeRevisionId := some ids.revisionId }).map field = templates.map field :=
    fun field hfield => map_update_of_field field hfield templates saved.id
  refine ⟨?_, ?_, ?_, ?_⟩
  · exact (hactivate PromptTemplate.templateType fun _ => rfl).symm ▸ htypes
  · exact (hactivate PromptTemplate.id fun _ => rfl).symm ▸ hids
  · dsimp only
    rw [hactivate PromptTemplate.id fun _ => rfl]
    intro row hrow
    rcases List.mem_append.mp hrow with hrow | hrow
    · obtain ⟨template, htemplate, hid⟩ := List.mem_map.mp (hkept.owned row hrow)
      by_cases hsame : template.id = saved.id
      · rwa [← hid, hsame]
      · rw [← hid]
        exact List.mem_map_of_mem ((hrows template).mpr (.inr ⟨htemplate, hsame⟩))
    · rwa [List.mem_singleton.mp hrow]
  · dsimp only
    intro template hmem
    rcases mem_update.mp hmem with ⟨row, hrow, hid, rfl⟩ | ⟨hrow, hid⟩
    · -- the template that has been saved
      obtain rfl : row = saved := (hrows row).mp hrow |>.resolve_right fun h => h.2 hid
      exact numbered_saved hkept hold htype hallowed hrevision
    · -- another template
      exact numbered_other hkept ((hrows template).mp hrow |>.resolve_left fun h => hid (h ▸ rfl)).1
        hid

lemma WellKept.step (hkept : WellKept tables) (hstep : step tables event = some tables') :
    WellKept tables' := by
  obtain ⟨⟨htemplate, hrevision⟩, rfl | ⟨-, templateType, name, description, content, hallowed,
    rfl⟩⟩ := step_cases hstep
  · exact hkept
  · exact hkept.writeRevision hallowed htemplate hrevision

lemma revisions_prefix_step (hstep : PromptRevisions.step tables event = some tables') :
    tables.revisions <+: tables'.revisions := by
  obtain ⟨-, rfl | ⟨-, templateType, name, description, content, -, rfl⟩⟩ := step_cases hstep
  · exact List.prefix_rfl
  · exact List.prefix_append _ _

lemma wellKept_run {events : List Event} (hkept : WellKept tables)
    (hrun : TransitionSystem.run PromptRevisions.step tables events = some tables') :
    WellKept tables' :=
  invariant_run WellKept (fun _ _ _ hkept hstep => hkept.step hstep) hkept hrun

lemma wellKept_empty : WellKept {} :=
  ⟨List.nodup_nil, List.nodup_nil, fun _ h => absurd h List.not_mem_nil,
    fun _ h => absurd h List.not_mem_nil⟩

/-- In every run from empty tables the revisions of each template are numbered from one, the newest
is active and names what its content names; the revisions of an earlier moment are still there; and
a request that is rejected changes nothing. -/
theorem revisions_numbered {before after : List Event} {earlier : PromptTables}
    (hbefore : TransitionSystem.run PromptRevisions.step {} before = some earlier)
    (hafter : TransitionSystem.run PromptRevisions.step earlier after = some tables) :
    WellKept tables ∧ earlier.revisions <+: tables.revisions ∧
      ∀ event tables', PromptRevisions.step tables event = some tables' →
        event.Rejected tables → tables' = tables := by
  refine ⟨wellKept_run (wellKept_run wellKept_empty hbefore) hafter, ?_, ?_⟩
  · exact invariant_run (fun later => earlier.revisions <+: later.revisions)
      (fun _ _ _ hprefix hstep => hprefix.trans (revisions_prefix_step hstep)) List.prefix_rfl
      hafter
  · intro event tables' hstep hrejected
    obtain ⟨-, heq | ⟨haccepted, -⟩⟩ := step_cases hstep
    · exact heq
    · exact absurd hrejected haccepted

/-- A template is written, again with a name that its type does not have, and once more. -/
theorem revisions_numbered_rewrite : ∃ earlier tables : PromptTables,
    earlier.revisions.map PromptTemplateRevision.version = [1] ∧
      tables.revisions.map PromptTemplateRevision.version = [1, 2] ∧
      WellKept tables ∧ earlier.revisions <+: tables.revisions := by
  have hruns : ((TransitionSystem.run PromptRevisions.step {}
      [{ request := .upsert "pull" "Pull" "" "\x7b\x7b runtime_event \x7d\x7d",
         ids := { templateId := "t1", revisionId := "r1" } },
       { request := .upsert "pull" "Pull" "" "\x7b\x7b session_state \x7d\x7d",
         ids := { templateId := "t2", revisionId := "r2" } }]).bind fun earlier =>
        (TransitionSystem.run PromptRevisions.step earlier
          [{ request := .upsert "pull" "Pull" "" "\x7b\x7b memory_context \x7d\x7d",
             ids := { templateId := "t2", revisionId := "r2" } }]).map fun tables =>
            (earlier.revisions.map PromptTemplateRevision.version,
              tables.revisions.map PromptTemplateRevision.version)) = some ([1], [1, 2]) := by
    decide +kernel
  obtain ⟨earlier, hbefore, hmap⟩ := Option.bind_eq_some_iff.mp hruns
  obtain ⟨tables, hafter, hversions⟩ := Option.map_eq_some_iff.mp hmap
  obtain ⟨hone, htwo⟩ := Prod.mk.inj hversions
  have hnumbered := revisions_numbered hbefore hafter
  exact ⟨earlier, tables, hone, htwo, hnumbered.1, hnumbered.2.1⟩

end Invariant

end PromptRevisions

end CocoonSit
