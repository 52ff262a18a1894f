import CocoonSit.Catalog.EmbeddingProviders
import CocoonSit.Lib.Run

/-!
# Vectors of memories and the provider that is enabled

A memory keeps the vector that the provider enabled at its writing made.  A retrieval compares the
query, embedded by the provider that is enabled now, with the vectors of its candidates, whatever
provider made them; vectors of different lengths are an error of the database, and so are two
enabled providers for `resolve_embedding_provider`, both outside of what the retrieval falls back
from.

Reading and writing take place in transactions of their own: a vector is made before its row is
committed, and a query before it is compared.  The database is one with vector search.
-/

namespace CocoonSit

open Table TransitionSystem

namespace Embeddings

variable {χ α : Type}

/-- A vector and what made it, of which a row keeps the provider's id and the model's name. -/
structure Vector (χ α : Type) where
  producer : Producer χ
  values : List α

/-- `memory_embeddings`, without the keywords. -/
structure MemoryEmbedding (χ α : Type) where
  memoryChunkId : RowId
  embedding : Option (Vector χ α) := none

instance : Keyed (MemoryEmbedding χ α) RowId := ⟨MemoryEmbedding.memoryChunkId⟩

/-- A transaction that has not ended. -/
inductive Pending (χ α : Type) where
  | request (r : Request χ)
  | write (memoryChunkId : RowId) (embedding : Option (Vector χ α))
  | query (vector : Vector χ α)

def Pending.vector : Pending χ α → Option (Vector χ α)
  | .request _ => none
  | .write _ embedding => embedding
  | .query vector => some vector

structure State (χ α : Type) where
  providers : List (EmbeddingProvider χ) := []
  embeddings : List (MemoryEmbedding χ α) := []
  pending : List (Pending χ α) := []
  /-- The query vectors and the vectors they have been compared with. -/
  compared : List (Vector χ α × Vector χ α) := []
  /-- What has been raised in rounds. -/
  failures : List String := []

inductive Event (χ α : Type) where
  /-- `create_embedding_provider` adds its row. -/
  | create (item : EmbeddingProvider χ)
  /-- `update_embedding_provider` loads its row. -/
  | load (id : RowId) (payload : EmbeddingProviderUpdate χ)
  /-- Either looks for the others that are enabled. -/
  | scan (index : ℕ)
  | commit (index : ℕ)
  | abort (index : ℕ)
  /-- `index_memory_chunk`, with what `embed_texts` answers. -/
  | index (memoryChunkId : RowId) (response : Except String (List (List α)))
  /-- `retrieve_visible_memories`, up to its query vector. -/
  | retrieve (response : Except String (List (List α)))
  /-- Its query for the distances to its candidates. -/
  | compare (index : ℕ) (candidates : List RowId)

/-- The vector of the first text, if a provider is enabled and answers. -/
def embedText (providers : List (EmbeddingProvider χ)) (response : Except String (List (List α))) :
    Except String (Option (Vector χ α)) :=
  match resolveEmbeddingProvider providers with
  | .error error => .error error
  | .ok none => .ok none
  | .ok (some producer) =>
    match response with
    | .ok (values :: _) => .ok (some ⟨producer, values⟩)
    | _ => .ok none

section Steps

variable [DecidableEq χ] (dim : Producer χ → ℕ)

/-- A producer's vectors have one length. -/
def Answers (providers : List (EmbeddingProvider χ)) (response : Except String (List (List α))) :
    Bool :=
  match embedText providers response with
  | .ok (some vector) => vector.values.length = dim vector.producer
  | _ => true

/-- The vectors of the candidates that the query is compared with. -/
def candidateVectors (embeddings : List (MemoryEmbedding χ α)) (candidates : List RowId) :
    List (Vector χ α) :=
  (embeddings.filter fun e => e.memoryChunkId ∈ candidates).filterMap MemoryEmbedding.embedding

def step (s : State χ α) : Event χ α → Option (State χ α)
  | .create item =>
    some { s with pending := s.pending ++ [.request { loaded := none, item := item }] }
  | .load id payload =>
    match get s.providers id with
    | none => some s
    | some loaded =>
      some { s with
        pending := s.pending ++
          [.request { loaded := some loaded, item := payload.apply loaded }] }
  | .scan index =>
    match s.pending[index]? with
    | some (.request r) =>
      some { s with pending := s.pending.set index (.request (r.scan s.providers)) }
    | _ => none
  | .commit index =>
    match s.pending[index]? with
    | some (.request r) =>
      if r.scanned = false ∨ (r.loaded.isNone ∧ r.item.id ∈ s.providers.map key) then none
      else
        some { s with
          providers := r.commit s.providers
          pending := s.pending.eraseIdx index }
    | some (.write memoryChunkId embedding) =>
      some { s with
        embeddings := put s.embeddings ⟨memoryChunkId, embedding⟩
        pending := s.pending.eraseIdx index }
    | _ => none
  | .abort index => some { s with pending := s.pending.eraseIdx index }
  | .index memoryChunkId response =>
    if Answers dim s.providers response then
      match embedText s.providers response with
      | .error error => some { s with failures := s.failures ++ [error] }
      | .ok embedding =>
        some { s with pending := s.pending ++ [.write memoryChunkId embedding] }
    else none
  | .retrieve response =>
    if Answers dim s.providers response then
      match embedText s.providers response with
      | .error error => some { s with failures := s.failures ++ [error] }
      | .ok none => some s
      | .ok (some vector) => some { s with pending := s.pending ++ [.query vector] }
    else none
  | .compare index candidates =>
    match s.pending[index]? with
    | some (.query vector) =>
      let stored := candidateVectors s.embeddings candidates
      some { s with
        pending := s.pending.eraseIdx index
        compared := s.compared ++ stored.map fun v => (vector, v)
        failures :=
          if stored.all fun v => v.values.length = vector.values.length then s.failures
          else s.failures ++ ["different vector dimensions"] }
    | _ => none

end Steps

/-! ## One producer for all vectors -/

/-- The vectors that are stored or on their way. -/
def State.vectors (s : State χ α) : List (Vector χ α) :=
  s.embeddings.filterMap MemoryEmbedding.embedding ++ s.pending.filterMap Pending.vector

/-- One provider is enabled at most, every comparison is of vectors of one producer and one length,
and no round has failed for its vectors. -/
def Sound (s : State χ α) : Prop :=
  OneEnabled s.providers ∧
  (∀ c ∈ s.compared, c.1.producer = c.2.producer ∧ c.1.values.length = c.2.values.length) ∧
  s.failures = []

/-- A request is committed only where it saw the other enabled providers, if it enables its own, and
where its own, if it is then enabled, is of a supported kind and the producer of every vector that
is stored or on its way. -/
def Harmless [DecidableEq χ] (s : State χ α) : Event χ α → Prop
  | .commit index =>
    match s.pending[index]? with
    | some (.request r) =>
      (r.Enables → r.SawEnabled s.providers) ∧
      ∀ p ∈ r.written s.providers, p.isEnabled = true →
        p.kind ∈ embeddingKinds ∧ ∀ v ∈ s.vectors, v.producer = p.producer
    | _ => True
  | _ => True

/-- What an enabled provider is to the vectors. -/
structure Uniform (dim : Producer χ → ℕ) (providers : List (EmbeddingProvider χ))
    (vectors : List (Vector χ α)) : Prop where
  current : ∀ p ∈ providers, p.isEnabled = true → ∀ v ∈ vectors, v.producer = p.producer
  same : ∀ v ∈ vectors, ∀ w ∈ vectors, v.producer = w.producer
  lengths : ∀ v ∈ vectors, v.values.length = dim v.producer

structure Good (dim : Producer χ → ℕ) (s : State χ α) : Prop where
  sound : Sound s
  keys : (s.providers.map key).Nodup
  kinds : ∀ p ∈ s.providers, p.isEnabled = true → p.kind ∈ embeddingKinds
  uniform : Uniform dim s.providers s.vectors

variable {dim : Producer χ → ℕ} {s s' : State χ α}

lemma Uniform.mono {providers : List (EmbeddingProvider χ)} {vectors vectors' : List (Vector χ α)}
    (h : Uniform dim providers vectors) (hsub : vectors' ⊆ vectors) :
    Uniform dim providers vectors' where
  current := fun p hp he v hv => h.current p hp he v (hsub hv)
  same := fun v hv w hw => h.same v (hsub hv) w (hsub hw)
  lengths := fun v hv => h.lengths v (hsub hv)

lemma Uniform.cons {providers : List (EmbeddingProvider χ)} {vectors vectors' : List (Vector χ α)}
    (h : Uniform dim providers vectors) {p : EmbeddingProvider χ} (hp : p ∈ providers)
    (he : p.isEnabled = true) (hone : OneEnabled providers) (hkeys : (providers.map key).Nodup)
    {vector : Vector χ α} (hproducer : vector.producer = p.producer)
    (hlength : vector.values.length = dim vector.producer)
    (hsub : ∀ v ∈ vectors', v = vector ∨ v ∈ vectors) : Uniform dim providers vectors' := by
  have hall : ∀ v ∈ vectors', v.producer = p.producer := fun v hv => by
    rcases hsub v hv with rfl | hv
    · exact hproducer
    · exact h.current p hp he v hv
  refine ⟨fun q hq hqe v hv => ?_, fun v hv w hw => (hall v hv).trans (hall w hw).symm,
    fun v hv => ?_⟩
  · have hid := hone p hp q hq he hqe
    rw [← List.inj_on_of_nodup_map hkeys hp hq hid]
    exact hall v hv
  · rcases hsub v hv with rfl | hv
    · exact hlength
    · exact h.lengths v hv

lemma Good.embedText (hs : Good dim s) {response : Except String (List (List α))}
    (ha : Answers dim s.providers response = true) :
    embedText s.providers response = .ok none ∨
      ∃ p ∈ s.providers, p.isEnabled = true ∧ ∃ vector, embedText s.providers response =
        .ok (some vector) ∧ vector.producer = p.producer ∧
          vector.values.length = dim vector.producer := by
  unfold Answers at ha
  unfold Embeddings.embedText at ha ⊢
  rcases resolve_of_oneEnabled hs.keys hs.sound.1 hs.kinds with hnone | ⟨p, hp, he, hsome⟩
  · rw [hnone]
    exact .inl rfl
  · rw [hsome] at ha ⊢
    match response with
    | .error _ => exact .inl rfl
    | .ok [] => exact .inl rfl
    | .ok (values :: _) => exact .inr ⟨p, hp, he, ⟨p.producer, values⟩, rfl, rfl, by simpa using ha⟩

lemma mem_vectors {v : Vector χ α} :
    v ∈ s.vectors ↔
      (∃ e ∈ s.embeddings, e.embedding = some v) ∨ ∃ p ∈ s.pending, p.vector = some v := by
  simp [State.vectors, List.mem_filterMap]

lemma Good.of_subset (hs : Good dim s) (hproviders : s'.providers = s.providers)
    (hcompared : s'.compared = s.compared) (hfailures : s'.failures = s.failures)
    (hsub : s'.vectors ⊆ s.vectors) : Good dim s' where
  sound := by
    rw [Sound, hproviders, hcompared, hfailures]
    exact hs.sound
  keys := by
    rw [hproviders]
    exact hs.keys
  kinds := by
    rw [hproviders]
    exact hs.kinds
  uniform := by
    rw [hproviders]
    exact hs.uniform.mono hsub

lemma vectors_subset_of_pending {pending : List (Pending χ α)}
    (h : ∀ p ∈ pending, p ∈ s.pending ∨ p.vector = none) :
    State.vectors { s with pending := pending } ⊆ s.vectors := by
  intro v hv
  rw [mem_vectors] at hv ⊢
  refine hv.imp_right fun ⟨p, hp, hvector⟩ => ?_
  rcases h p hp with hold | hnone
  · exact ⟨p, hold, hvector⟩
  · rw [hnone] at hvector
    cases hvector

variable [DecidableEq χ]

lemma Good.commitRequest (hs : Good dim s) {index : ℕ} {r : Request χ}
    (hr : s.pending[index]? = some (.request r)) (hharmless : Harmless s (.commit index))
    (hfresh : ¬ (r.loaded.isNone = true ∧ r.item.id ∈ s.providers.map key)) :
    Good dim { s with
      providers := r.commit s.providers
      pending := s.pending.eraseIdx index } := by
  simp only [Harmless, hr] at hharmless
  obtain ⟨hsaw, hown⟩ := hharmless
  have hleft : ∀ p ∈ r.commit s.providers, p.isEnabled = true →
      p.kind ∈ embeddingKinds ∧ ∀ v ∈ s.vectors, v.producer = p.producer := fun p hp he => by
    rcases kept_or_written hs.keys hp he with hkept | hwritten
    · exact ⟨hs.kinds p hkept he, hs.uniform.current p hkept he⟩
    · exact hown p hwritten he
  have hsub : State.vectors { s with
      providers := r.commit s.providers
      pending := s.pending.eraseIdx index } ⊆ s.vectors :=
    vectors_subset_of_pending fun p hp => .inl (List.mem_of_mem_eraseIdx hp)
  refine ⟨⟨oneEnabled_commit hs.sound.1 hsaw, hs.sound.2⟩, ?_, fun p hp he => (hleft p hp he).1,
    ⟨fun p hp he v hv => (hleft p hp he).2 v (hsub hv), (hs.uniform.mono hsub).same,
      (hs.uniform.mono hsub).lengths⟩⟩
  rw [keys_commit]
  cases hloaded : r.loaded with
  | none =>
    rw [hloaded] at hfresh
    have hnew : r.item.id ∉ s.providers.map key := fun hmem => hfresh ⟨rfl, hmem⟩
    exact hs.keys.append (List.nodup_singleton _) (by simpa using hnew)
  | some loaded => exact hs.keys

omit [DecidableEq χ] in
lemma Good.commitWrite (hs : Good dim s) {index : ℕ} {memoryChunkId : RowId}
    {embedding : Option (Vector χ α)}
    (hw : s.pending[index]? = some (.write memoryChunkId embedding)) :
    Good dim { s with
      embeddings := put s.embeddings ⟨memoryChunkId, embedding⟩
      pending := s.pending.eraseIdx index } := by
  refine hs.of_subset rfl rfl rfl fun v hv => ?_
  rw [mem_vectors] at hv ⊢
  rcases hv with ⟨e, he, hv⟩ | ⟨p, hp, hv⟩
  · rcases mem_put he with rfl | hold
    · exact .inr ⟨_, List.mem_of_getElem? hw, hv⟩
    · exact .inl ⟨e, hold, hv⟩
  · exact .inr ⟨p, List.mem_of_mem_eraseIdx hp, hv⟩

omit [DecidableEq χ] in
lemma Good.begin (hs : Good dim s) {p : EmbeddingProvider χ} (hp : p ∈ s.providers)
    (he : p.isEnabled = true) {vector : Vector χ α} (hproducer : vector.producer = p.producer)
    (hlength : vector.values.length = dim vector.producer) {new : Pending χ α}
    (hnew : new.vector = some vector) : Good dim { s with pending := s.pending ++ [new] } := by
  refine ⟨hs.sound, hs.keys, hs.kinds,
    hs.uniform.cons hp he hs.sound.1 hs.keys hproducer hlength fun v hv => ?_⟩
  rw [mem_vectors] at hv ⊢
  rcases hv with hstored | ⟨q, hq, hv⟩
  · exact .inr (.inl hstored)
  · rcases List.mem_append.mp hq with hold | hlast
    · exact .inr (.inr ⟨q, hold, hv⟩)
    · rw [List.mem_singleton.mp hlast, hnew] at hv
      exact .inl (Option.some.inj hv).symm

omit [DecidableEq χ] in
lemma Good.compare (hs : Good dim s) {index : ℕ} {vector : Vector χ α} {candidates : List RowId}
    (hq : s.pending[index]? = some (.query vector)) :
    Good dim { s with
      pending := s.pending.eraseIdx index
      compared := s.compared ++ (candidateVectors s.embeddings candidates).map fun v => (vector, v)
      failures :=
        if (candidateVectors s.embeddings candidates).all fun v =>
            v.values.length = vector.values.length then s.failures
        else s.failures ++ ["different vector dimensions"] } := by
  have hvector : vector ∈ s.vectors := mem_vectors.mpr (.inr ⟨_, List.mem_of_getElem? hq, rfl⟩)
  have hstored : ∀ v ∈ candidateVectors s.embeddings candidates, v ∈ s.vectors := fun v hv => by
    obtain ⟨e, he, hv⟩ := List.mem_filterMap.mp hv
    exact mem_vectors.mpr (.inl ⟨e, (List.mem_filter.mp he).1, hv⟩)
  have hpair : ∀ v ∈ candidateVectors s.embeddings candidates,
      vector.producer = v.producer ∧ vector.values.length = v.values.length := fun v hv => by
    have hproducer := hs.uniform.same vector hvector v (hstored v hv)
    refine ⟨hproducer, ?_⟩
    rw [hs.uniform.lengths vector hvector, hs.uniform.lengths v (hstored v hv), hproducer]
  have hall : ((candidateVectors s.embeddings candidates).all fun v =>
      v.values.length = vector.values.length) = true :=
    List.all_eq_true.mpr fun v hv => decide_eq_true (hpair v hv).2.symm
  refine ⟨⟨hs.sound.1, fun c hc => ?_, ?_⟩, hs.keys, hs.kinds,
    hs.uniform.mono (vectors_subset_of_pending fun p hp => .inl (List.mem_of_mem_eraseIdx hp))⟩
  · rcases List.mem_append.mp hc with hold | hnew
    · exact hs.sound.2.1 c hold
    · obtain ⟨v, hv, rfl⟩ := List.mem_map.mp hnew
      exact hpair v hv
  · rw [if_pos hall]
    exact hs.sound.2.2

theorem good_step {e : Event χ α} (hs : Good dim s) (hharmless : Harmless s e)
    (h : step dim s e = some s') : Good dim s' := by
  have happend : ∀ new : Pending χ α, new.vector = none →
      Good dim { s with pending := s.pending ++ [new] } := fun new hnew =>
    hs.of_subset rfl rfl rfl (vectors_subset_of_pending fun p hp =>
      (List.mem_append.mp hp).imp_right fun hlast => by rwa [List.mem_singleton.mp hlast])
  cases e with
  | create item =>
    cases h
    exact happend _ rfl
  | load id payload =>
    cases hrow : get s.providers id <;>
      simp only [step, hrow, Option.some.injEq] at h <;> subst h
    · exact hs
    · exact happend _ rfl
  | scan index =>
    cases hp : s.pending[index]? with
    | none => simp [step, hp] at h
    | some p =>
      cases p <;> simp only [step, hp, reduceCtorEq, Option.some.injEq] at h
      subst h
      refine hs.of_subset rfl rfl rfl (vectors_subset_of_pending fun p hmem => ?_)
      exact (List.mem_or_eq_of_mem_set hmem).imp_right fun heq => by rw [heq]; rfl
  | commit index =>
    cases hp : s.pending[index]? with
    | none => simp [step, hp] at h
    | some p =>
      cases p with
      | query vector => simp [step, hp] at h
      | write memoryChunkId embedding =>
        simp only [step, hp, Option.some.injEq] at h
        subst h
        exact hs.commitWrite hp
      | request r =>
        simp only [step, hp] at h
        split at h
        · cases h
        · next hbad =>
          cases h
          exact hs.commitRequest hp hharmless fun hfresh => hbad (.inr hfresh)
  | abort index =>
    cases h
    exact hs.of_subset rfl rfl rfl
      (vectors_subset_of_pending fun p hp => .inl (List.mem_of_mem_eraseIdx hp))
  | index memoryChunkId response =>
    by_cases ha : Answers dim s.providers response = true
    · simp only [step, if_pos ha] at h
      rcases hs.embedText ha with hnone | ⟨p, hp, he, vector, hsome, hproducer, hlength⟩
      · rw [hnone] at h
        cases h
        exact happend _ rfl
      · rw [hsome] at h
        cases h
        exact hs.begin hp he hproducer hlength rfl
    · simp [step, ha] at h
  | retrieve response =>
    by_cases ha : Answers dim s.providers response = true
    · simp only [step, if_pos ha] at h
      rcases hs.embedText ha with hnone | ⟨p, hp, he, vector, hsome, hproducer, hlength⟩
      · rw [hnone] at h
        cases h
        exact hs
      · rw [hsome] at h
        cases h
        exact hs.begin hp he hproducer hlength rfl
    · simp [step, ha] at h
  | compare index candidates =>
    cases hp : s.pending[index]? with
    | none => simp [step, hp] at h
    | some p =>
      cases p <;> simp only [step, hp, reduceCtorEq, Option.some.injEq] at h
      subst h
      exact hs.compare hp

/-- In every history from an empty database whose commits of requests are all harmless, every state
is sound. -/
theorem sound_of_harmless {es : List (Event χ α)}
    (hharmless : StepsMeet (step dim) Harmless {} es) : AllStates (step dim) Sound {} es := by
  refine allStates_of_stepsMeet (Good dim) (fun _ _ _ => good_step) (fun _ hs => hs.sound) ?_
    hharmless
  exact ⟨⟨by simp [OneEnabled], by simp, rfl⟩, List.nodup_nil, by simp,
    ⟨by simp, by simp [State.vectors], by simp [State.vectors]⟩⟩

instance (s : State χ α) (e : Event χ α) : Decidable (Harmless s e) := by
  cases e with
  | commit index =>
    cases hp : s.pending[index]? with
    | none => exact .isTrue (by simp [Harmless, hp])
    | some p =>
      cases p with
      | request r =>
        refine decidable_of_iff ((r.Enables → r.SawEnabled s.providers) ∧
          ∀ p ∈ r.written s.providers, p.isEnabled = true →
            p.kind ∈ embeddingKinds ∧ ∀ v ∈ s.vectors, v.producer = p.producer) ?_
        simp only [Harmless, hp]
      | write _ _ => exact .isTrue (by simp [Harmless, hp])
      | query _ => exact .isTrue (by simp [Harmless, hp])
  | _ => exact .isTrue trivial

/-- A model whose name is "small" makes short vectors. -/
def exampleLength (producer : Producer Unit) : ℕ :=
  if producer.modelName = "small" then 2 else 3

def exampleProvider (id : RowId) (modelName : String) (isEnabled : Bool) :
    EmbeddingProvider Unit where
  id := id
  name := modelName
  modelName := modelName
  configJson := ()
  isEnabled := isEnabled

/-- One provider, which is renamed between a memory's writing and its retrieval. -/
def renamed : List (Event Unit ℤ) :=
  [.create (exampleProvider "a" "small" true), .scan 0, .commit 0,
    .index "m" (.ok [[1, 0]]), .commit 0,
    .load "a" { name := some "default" }, .scan 0, .commit 0,
    .retrieve (.ok [[0, 1]]), .compare 0 ["m"]]

theorem renamed_sound :
    (run (step exampleLength) {} renamed).map (fun s => s.compared.length) = some 1 ∧
    AllStates (step exampleLength) Sound {} renamed :=
  ⟨by decide +kernel, sound_of_harmless (by decide +kernel)⟩

/-- A second provider is created, enabled as is the default, between a memory's writing and its
retrieval. -/
def switched : List (Event Unit ℤ) :=
  [.create (exampleProvider "a" "small" true), .scan 0, .commit 0,
    .index "m" (.ok [[1, 0]]), .commit 0,
    .create (exampleProvider "b" "large" true), .scan 0, .commit 0,
    .retrieve (.ok [[1, 0, 0]]), .compare 0 ["m"]]

/-- Two providers are enabled by requests that look for other enabled ones before either is
committed. -/
def raced : List (Event Unit ℤ) :=
  [.create (exampleProvider "a" "small" false), .scan 0, .commit 0,
    .create (exampleProvider "b" "small" false), .scan 0, .commit 0,
    .load "a" { isEnabled := some true }, .load "b" { isEnabled := some true }, .scan 0, .scan 1,
    .commit 0, .commit 0, .retrieve (.ok [[1, 0]])]

instance (s : State χ α) : Decidable (Sound s) :=
  inferInstanceAs (Decidable ((∀ p ∈ s.providers, ∀ q ∈ s.providers, _) ∧ (∀ _ ∈ _, _ ∧ _) ∧ _))

/-- After the switch the vectors of two producers are compared, and the round fails; after the race
two providers are enabled, and the round fails. -/
theorem switched_and_raced :
    ¬ AllStates (step exampleLength) Sound {} switched ∧
    ((run (step exampleLength) {} switched).map fun s =>
      (s.compared.map fun c => (c.1.producer.modelName, c.2.producer.modelName), s.failures)) =
      some ([("large", "small")], ["different vector dimensions"]) ∧
    ¬ AllStates (step exampleLength) Sound {} raced ∧
    ((run (step exampleLength) {} raced).map fun s =>
      (s.providers.map EmbeddingProvider.isEnabled, s.failures)) =
      some ([true, true], ["Expected exactly one active embedding provider"]) := by
  decide +kernel

end Embeddings

end CocoonSit
