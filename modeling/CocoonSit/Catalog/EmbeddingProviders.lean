import CocoonSit.Model.Entities

/-!
# Embedding providers

`EmbeddingProviderService` keeps one provider enabled by disabling, at the end of a request, the
others that the request finds enabled.  A request reads what other requests have committed, and its
own writes are committed when it ends; so a request is three steps, between which others commit.
`ProviderRegistry.resolve_embedding_provider` expects what the service keeps.

`config_json` is a parameter.  What a provider's vectors depend on is its `Producer`.
-/

namespace CocoonSit

open Table

namespace Embeddings

variable {χ : Type}

/-- `embedding_providers`, without the secret. -/
structure EmbeddingProvider (χ : Type) where
  id : RowId
  name : String
  kind : String := "local_cpu"
  providerId : Option RowId := none
  modelName : String
  configJson : χ
  isEnabled : Bool := true
  deriving DecidableEq

instance : Keyed (EmbeddingProvider χ) RowId := ⟨EmbeddingProvider.id⟩

@[simp] lemma key_provider (p : EmbeddingProvider χ) : key p = p.id := rfl

/-- What makes a vector: the provider with its kind and configuration, and the model. -/
structure Producer (χ : Type) where
  providerId : RowId
  kind : String
  modelName : String
  configJson : χ
  deriving DecidableEq

def EmbeddingProvider.producer (p : EmbeddingProvider χ) : Producer χ :=
  ⟨p.id, p.kind, p.modelName, p.configJson⟩

/-! ## The service -/

structure EmbeddingProviderUpdate (χ : Type) where
  name : Option String := none
  kind : Option String := none
  providerId : Option RowId := none
  modelName : Option String := none
  configJson : Option χ := none
  isEnabled : Option Bool := none

/-- The item of an update in the session. -/
def EmbeddingProviderUpdate.apply (payload : EmbeddingProviderUpdate χ)
    (item : EmbeddingProvider χ) :
    EmbeddingProvider χ where
  id := item.id
  name := payload.name.getD item.name
  kind := payload.kind.getD item.kind
  providerId := payload.providerId.or item.providerId
  modelName := payload.modelName.getD item.modelName
  configJson := payload.configJson.getD item.configJson
  isEnabled := payload.isEnabled.getD item.isEnabled

/-- A column that the session has changed is written, another one is not. -/
def writeChanged {α : Type} [DecidableEq α] (loaded item row : α) : α :=
  if item = loaded then row else item

/-- What the commit of an update writes to its row. -/
def writeItem [DecidableEq χ] (loaded item row : EmbeddingProvider χ) : EmbeddingProvider χ where
  id := row.id
  name := writeChanged loaded.name item.name row.name
  kind := writeChanged loaded.kind item.kind row.kind
  providerId := writeChanged loaded.providerId item.providerId row.providerId
  modelName := writeChanged loaded.modelName item.modelName row.modelName
  configJson := writeChanged loaded.configJson item.configJson row.configJson
  isEnabled := writeChanged loaded.isEnabled item.isEnabled row.isEnabled

/-- A request that creates or updates a provider: the item as it was loaded (`none` if it is new)
and as it is in the session, and the providers it disables. -/
structure Request (χ : Type) where
  loaded : Option (EmbeddingProvider χ)
  item : EmbeddingProvider χ
  disables : List RowId := []
  scanned : Bool := false

/-- `_disable_other_active_providers`: the others that are found enabled. -/
def otherActiveProviders (providers : List (EmbeddingProvider χ)) (activeProviderId : RowId) :
    List RowId :=
  (providers.filter fun p => p.isEnabled ∧ p.id ≠ activeProviderId).map EmbeddingProvider.id

/-- The end of `create_embedding_provider` and of `update_embedding_provider`. -/
def Request.scan (r : Request χ) (providers : List (EmbeddingProvider χ)) : Request χ :=
  { r with
    disables := if r.item.isEnabled then otherActiveProviders providers r.item.id else []
    scanned := true }

def Request.commit [DecidableEq χ] (r : Request χ) (providers : List (EmbeddingProvider χ)) :
    List (EmbeddingProvider χ) :=
  updateIn
    (match r.loaded with
      | none => providers ++ [r.item]
      | some loaded => update providers r.item.id (writeItem loaded r.item))
    r.disables fun p => { p with isEnabled := false }

/-- The row of the request's own provider, as its commit writes it. -/
def Request.written [DecidableEq χ] (r : Request χ) (providers : List (EmbeddingProvider χ)) :
    Option (EmbeddingProvider χ) :=
  match r.loaded with
  | none => some r.item
  | some loaded => (get providers r.item.id).map (writeItem loaded r.item)

/-! ## The registry -/

/-- The kinds that `ProviderFactory` has an implementation for. -/
def embeddingKinds : List String := ["local_cpu", "openai_compatible"]

def resolveEmbeddingProvider (providers : List (EmbeddingProvider χ)) :
    Except String (Option (Producer χ)) :=
  match providers.filter EmbeddingProvider.isEnabled with
  | [] => .ok none
  | [p] =>
    if p.kind ∈ embeddingKinds then .ok (some p.producer)
    else .error ("Unsupported embedding provider kind: " ++ p.kind)
  | _ => .error "Expected exactly one active embedding provider"

/-! ## Which providers are enabled -/

/-- A commit of the request makes its own provider an enabled one. -/
def Request.Enables (r : Request χ) : Prop :=
  r.item.isEnabled = true ∧ ∀ loaded ∈ r.loaded, loaded.isEnabled = false

instance (r : Request χ) : Decidable r.Enables := inferInstanceAs (Decidable (_ ∧ _))

def OneEnabled (providers : List (EmbeddingProvider χ)) : Prop :=
  ∀ p ∈ providers, ∀ q ∈ providers, p.isEnabled = true → q.isEnabled = true → p.id = q.id

/-- Every other provider that is enabled when the request is committed was enabled when it
looked. -/
def Request.SawEnabled (r : Request χ) (providers : List (EmbeddingProvider χ)) : Prop :=
  ∀ p ∈ providers, p.isEnabled = true → p.id ≠ r.item.id → p.id ∈ r.disables

instance (r : Request χ) (providers : List (EmbeddingProvider χ)) :
    Decidable (r.SawEnabled providers) := inferInstanceAs (Decidable (∀ _ ∈ _, _))

section Commit

variable [DecidableEq χ] {r : Request χ} {providers : List (EmbeddingProvider χ)}

lemma enabled_of_commit {p : EmbeddingProvider χ} (hp : p ∈ r.commit providers)
    (henabled : p.isEnabled = true) :
    p.id ∉ r.disables ∧
      ((∃ q ∈ providers, q.id = p.id ∧ q.isEnabled = true) ∨ (p.id = r.item.id ∧ r.Enables)) := by
  obtain ⟨q, -, -, rfl⟩ | ⟨hmem, hnot⟩ := mem_updateIn.mp hp
  · cases henabled
  refine ⟨hnot, ?_⟩
  cases hloaded : r.loaded with
  | none =>
    rw [hloaded] at hmem
    rcases List.mem_append.mp hmem with hold | hnew
    · exact .inl ⟨p, hold, rfl, henabled⟩
    · rw [List.mem_singleton.mp hnew] at henabled ⊢
      exact .inr ⟨rfl, henabled, by simp [hloaded]⟩
  | some loaded =>
    rw [hloaded] at hmem
    obtain ⟨row, hrow, hid, rfl⟩ | ⟨hold, -⟩ := mem_update.mp hmem
    · by_cases hsame : r.item.isEnabled = loaded.isEnabled
      · refine .inl ⟨row, hrow, rfl, ?_⟩
        simpa [writeItem, writeChanged, hsame] using henabled
      · have hitem : r.item.isEnabled = true := by
          simpa [writeItem, writeChanged, hsame] using henabled
        refine .inr ⟨hid, hitem, fun l hl => ?_⟩
        rw [hloaded] at hl
        rw [hitem] at hsame
        rw [← Option.some.inj hl]
        simpa using Ne.symm hsame
    · exact .inl ⟨p, hold, rfl, henabled⟩

lemma kept_or_written (hkeys : (providers.map key).Nodup) {p : EmbeddingProvider χ}
    (hp : p ∈ r.commit providers) (henabled : p.isEnabled = true) :
    p ∈ providers ∨ r.written providers = some p := by
  obtain ⟨q, -, -, rfl⟩ | ⟨hmem, -⟩ := mem_updateIn.mp hp
  · cases henabled
  unfold Request.written
  cases hloaded : r.loaded with
  | none =>
    rw [hloaded] at hmem
    exact (List.mem_append.mp hmem).imp_right fun hnew => by rw [List.mem_singleton.mp hnew]
  | some loaded =>
    rw [hloaded] at hmem
    obtain ⟨row, hrow, hid, rfl⟩ | ⟨hold, -⟩ := mem_update.mp hmem
    · have hget : get providers r.item.id = some row :=
        hid ▸ get_of_mem hkeys hrow
      exact .inr (by simp only [hget, Option.map_some])
    · exact .inl hold

/-- A commit keeps one provider enabled if it saw the others that are. -/
theorem oneEnabled_commit (hone : OneEnabled providers)
    (hsaw : r.Enables → r.SawEnabled providers) : OneEnabled (r.commit providers) := by
  intro p hp q hq hpe hqe
  obtain ⟨hpd, ⟨p', hp', hpid, hpe'⟩ | ⟨hpid, hr⟩⟩ := enabled_of_commit hp hpe <;>
    obtain ⟨hqd, ⟨q', hq', hqid, hqe'⟩ | ⟨hqid, hr'⟩⟩ := enabled_of_commit hq hqe
  · rw [← hpid, ← hqid]
    exact hone p' hp' q' hq' hpe' hqe'
  · -- an older one beside the request's own would have been seen
    by_contra hne
    rw [hqid] at hne
    exact hpd (hpid ▸ hsaw hr' p' hp' hpe' (hpid ▸ hne))
  · by_contra hne
    rw [hpid] at hne
    exact hqd (hqid ▸ hsaw hr q' hq' hqe' (hqid ▸ Ne.symm hne))
  · rw [hpid, hqid]

lemma keys_commit : (r.commit providers).map key =
    match r.loaded with
    | none => providers.map key ++ [r.item.id]
    | some _ => providers.map key := by
  have hids : ∀ t : List (EmbeddingProvider χ),
      (updateIn t r.disables fun p => { p with isEnabled := false }).map key = t.map key :=
    fun t => map_key_updateIn fun _ => rfl
  rw [Request.commit, hids]
  cases r.loaded with
  | none => simp
  | some loaded => exact map_key_update fun _ => rfl

end Commit

lemma resolve_of_oneEnabled {providers : List (EmbeddingProvider χ)}
    (hkeys : (providers.map key).Nodup) (hone : OneEnabled providers)
    (hkinds : ∀ p ∈ providers, p.isEnabled = true → p.kind ∈ embeddingKinds) :
    resolveEmbeddingProvider providers = .ok none ∨
      ∃ p ∈ providers, p.isEnabled = true ∧
        resolveEmbeddingProvider providers = .ok (some p.producer) := by
  unfold resolveEmbeddingProvider
  cases hfilter : providers.filter EmbeddingProvider.isEnabled with
  | nil => exact .inl rfl
  | cons p rest =>
    have hmem : ∀ q ∈ p :: rest, q ∈ providers ∧ q.isEnabled = true := fun q hq =>
      List.mem_filter.mp (hfilter ▸ hq)
    cases rest with
    | nil =>
      obtain ⟨hp, henabled⟩ := hmem p List.mem_cons_self
      exact .inr ⟨p, hp, henabled, if_pos (hkinds p hp henabled)⟩
    | cons q rest =>
      obtain ⟨hp, hpe⟩ := hmem p List.mem_cons_self
      obtain ⟨hq, hqe⟩ := hmem q (List.mem_cons_of_mem _ List.mem_cons_self)
      have hnd : ((p :: q :: rest).map key).Nodup :=
        hfilter ▸ hkeys.sublist (List.filter_sublist.map key)
      have hne : p.id ≠ q.id := fun h =>
        (List.nodup_cons.mp hnd).1 (List.mem_cons.mpr (.inl h))
      exact absurd (hone p hp q hq hpe hqe) hne

end Embeddings

end CocoonSit
