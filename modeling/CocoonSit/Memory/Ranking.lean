import CocoonSit.Memory.Retrieval
import CocoonSit.Model.Accounts
import CocoonSit.Prompts.Renderer
import Mathlib.Algebra.Field.Rat
import Mathlib.Algebra.Order.Ring.Rat
import Mathlib.Order.WithBot

/-!
# The ranking of visible memories

`retrieve_visible_memories` loads the memories a round may see and returns the best of them.  Where
the database has vector search and a provider embeds the query, the distances to the stored vectors
enter the scores, and memories without a vector follow; otherwise the scores do without.  What the
provider and the query for the distances answer is arbitrary.

Floats are a linear order with arithmetic that no law is asked of.  `updated_at` is a parameter.
-/

namespace CocoonSit

open Table

namespace Ranking

/-! ## What is read from the profile -/

/-- `memory_profile`, a JSON object. -/
abbrev MemoryProfile := List (String × PromptValue)

/-- What Python makes of a number or a text. -/
structure Numbers (φ : Type) where
  /-- `int(text)`. -/
  intOfText : String → Option ℤ
  /-- `float(value)`. -/
  float : PromptValue → Option φ

/-- `int(value)`. -/
def toInt {φ : Type} (numbers : Numbers φ) : PromptValue → Except String ℤ
  | .bool value => .ok (if value then 1 else 0)
  | .int value => .ok value
  -- towards zero
  | .float value => .ok (if 0 ≤ value then value.floor else value.ceil)
  | .str text => match numbers.intOfText text with
    | some value => .ok value
    | none => .error "ValueError"
  | .null | .list _ | .dict _ => .error "TypeError"

/-- `int(profile.get(key) or default)`. -/
def intSetting {φ : Type} (numbers : Numbers φ) (profile : MemoryProfile) (name : String)
    (default : ℤ) : Except String ℤ :=
  match (profile.lookup name).filter PromptValue.truthy with
  | some value => toInt numbers value
  | none => .ok default

/-- `float(weights.get(f"{key}_weight", 0.0))`. -/
def weight {φ : Type} [Zero φ] (numbers : Numbers φ) (weights : MemoryProfile) (name : String) :
    Except String φ :=
  match weights.lookup (name ++ "_weight") with
  | none => .ok 0
  | some value => match numbers.float value with
    | some x => .ok x
    | none => .error "float"

/-! ## The candidates -/

inductive Dialect where
  | postgresql
  | sqlite
  deriving DecidableEq

/-- `LIMIT n`: SQLite takes a negative one for none; neither takes more than 64 bits. -/
def sqlLimit (dialect : Dialect) (n : ℤ) : Except String (Option ℕ) :=
  if n < -2 ^ 63 ∨ 2 ^ 63 ≤ n then .error "LIMIT out of range"
  else if n < 0 then
    match dialect with
    | .postgresql => .error "LIMIT must not be negative"
    | .sqlite => .ok none
  else .ok (some n.toNat)

/-- The arguments of `retrieve_visible_memories`. -/
structure Query where
  activeTags : List RowId
  target : Target
  ownerUserId : Option RowId := none
  queryText : Option String := none
  scopes : List String := []
  limit : ℤ := 5
  profile : MemoryProfile := []

/-- The rows `_load_candidate_memories` asks for, the limit apart. -/
def matchingMemories (db : Db) (q : Query) (now : Timestamp) : List MemoryChunk :=
  db.memories.filter fun m =>
    m.status = "active" && (m.validUntil.all fun validUntil => now ≤ validUntil) &&
      visibilityFilter db q.target q.ownerUserId m && (q.scopes.isEmpty || m.scope ∈ q.scopes)

def loadCandidateMemories (db : Db) (dialect : Dialect) (updatedAt : MemoryChunk → Timestamp)
    (q : Query) (now : Timestamp) (limit : ℤ) : Except String (List MemoryChunk) := do
  let memories := orderBy (fun m => OrderDual.toDual (updatedAt m)) (matchingMemories db q now)
  let memories ← match ← sqlLimit dialect (max (limit * 6) limit) with
    | some n => pure (memories.take n)
    | none => pure memories
  return memories.filter (tagFiltered db q.target q.activeTags)

/-! ## Scores -/

structure MemoryRetrievalHit (φ : Type) where
  memory : MemoryChunk
  similarityScore : Option φ
  matchedTags : List String
  embeddingProviderId : Option RowId
  finalScore : Option φ := none
  scoreBreakdown : Option (List (String × φ)) := none

section Arithmetic

variable {φ : Type} [LinearOrder φ] [Zero φ] [One φ] [Add φ] [Sub φ] [Mul φ] [Div φ] [IntCast φ]

/-- `max(0.0, min(float(x or 0) / 5.0, 1.0))`. -/
def outOfFive (x : ℤ) : φ := max 0 (min ((x : φ) / ((5 : ℤ) : φ)) 1)

/-- `_recency_score`, at the time of its call. -/
def recencyScore (updatedAt : MemoryChunk → Timestamp) (memory : MemoryChunk) (now : Timestamp) :
    φ :=
  let timestamp := memory.lastAccessedAt.getD (updatedAt memory)
  let seconds : φ := (((now : ℤ) - timestamp : ℤ) : φ) / ((1000000 : ℤ) : φ)
  let ageDays : φ := max 0 (seconds / ((86400 : ℤ) : φ))
  1 / (1 + ageDays / ((30 : ℤ) : φ))

/-- What the score of a hit is made of. -/
def scoreBreakdown (updatedAt : MemoryChunk → Timestamp) (activeTags : List RowId)
    (now : Timestamp) (hit : MemoryRetrievalHit φ) : List (String × φ) :=
  [("vector", hit.similarityScore.getD 0),
   ("importance", outOfFive hit.memory.importance),
   ("recency", recencyScore updatedAt hit.memory now),
   ("confidence", outOfFive hit.memory.confidence),
   ("tag_match",
      if activeTags.isEmpty then 0
      else min (((hit.matchedTags.length : ℤ) : φ) / ((activeTags.length : ℤ) : φ)) 1)]

/-- The sum of the scores by their weights. -/
def weightedSum (numbers : Numbers φ) (weights : MemoryProfile) (breakdown : List (String × φ)) :
    Except String φ :=
  breakdown.foldlM (fun total item => return total + item.2 * (← weight numbers weights item.1)) 0

def scoreHit (numbers : Numbers φ) (updatedAt : MemoryChunk → Timestamp) (activeTags : List RowId)
    (weights : MemoryProfile) (now : Timestamp) (hit : MemoryRetrievalHit φ) :
    Except String (MemoryRetrievalHit φ) := do
  let breakdown := scoreBreakdown updatedAt activeTags now hit
  let finalScore ← weightedSum numbers weights breakdown
  return { hit with scoreBreakdown := some breakdown, finalScore := some finalScore }

/-- `sorted(set(memory.tags_json or []).intersection(active_tags))`. -/
def matchedTags (memory : MemoryChunk) (activeTags : List RowId) : List String :=
  orderBy id (memory.tagsJson.dedup.filter fun t => t ∈ activeTags)

/-- A hit without a distance. -/
def baseHit (activeTags : List RowId) (memory : MemoryChunk) : MemoryRetrievalHit φ where
  memory := memory
  similarityScore := none
  matchedTags := matchedTags memory activeTags
  embeddingProviderId := none

/-! ## The retrieval -/

structure DistanceRow (φ : Type) where
  memoryChunkId : RowId
  embeddingProviderId : Option RowId
  distance : Option φ

/-- What the retrieval works with: the database's kind, the service's registry, what these answer,
and the clock at the scoring of each memory. -/
structure Environment (φ : Type) where
  numbers : Numbers φ
  updatedAt : MemoryChunk → Timestamp
  now : Timestamp
  scoredAt : RowId → Timestamp
  dialect : Dialect
  hasRegistry : Bool
  /-- `resolve_embedding_provider`: whether there is one. -/
  resolveEmbeddingProvider : Except String Bool
  /-- `embed_texts([text]).vectors`. -/
  embedTexts : String → Except String (List (List φ))
  /-- The rows with the distances from a vector to those of the candidates. -/
  distances : List φ → List RowId → Option ℕ → Except String (List (DistanceRow φ))

def Environment.supportsVectorSearch (env : Environment φ) : Bool :=
  env.dialect = .postgresql && env.hasRegistry

section Retrieve

variable (env : Environment φ) (q : Query)

def score (hit : MemoryRetrievalHit φ) : Except String (MemoryRetrievalHit φ) :=
  scoreHit env.numbers env.updatedAt q.activeTags q.profile (env.scoredAt hit.memory.id) hit

/-- `scored.sort(key=lambda item: (item.final_score or 0.0, item.memory.updated_at),
reverse=True)`. -/
def sortLocal (hits : List (MemoryRetrievalHit φ)) : List (MemoryRetrievalHit φ) :=
  orderBy (fun hit => OrderDual.toDual (toLex (hit.finalScore.getD 0, env.updatedAt hit.memory)))
    hits

/-- `item.final_score if item.final_score is not None else -math.inf`. -/
def scoreOrBottom (hit : MemoryRetrievalHit φ) : WithBot φ := hit.finalScore

def sortHits (hits : List (MemoryRetrievalHit φ)) : List (MemoryRetrievalHit φ) :=
  orderBy (fun hit => OrderDual.toDual (toLex (scoreOrBottom hit, env.updatedAt hit.memory))) hits

/-- The ranking without distances. -/
def localRanking (candidates : List MemoryChunk) (limit : ℤ) :
    Except String (List (MemoryRetrievalHit φ)) := do
  let scored ← (candidates.map (baseHit q.activeTags)).mapM (score env q)
  return sliceFirst (sortLocal env scored) limit

/-- One turn of the loop over the rows; `seen_ids` are the ids of the hits so far. -/
def addRow (candidates : List MemoryChunk) (hits : List (MemoryRetrievalHit φ))
    (row : DistanceRow φ) : Except String (List (MemoryRetrievalHit φ)) :=
  match get candidates row.memoryChunkId with
  | none => return hits
  | some memory =>
    if row.memoryChunkId ∈ hits.map fun hit => hit.memory.id then return hits
    else return hits ++ [← score env q
      { memory := memory
        similarityScore := row.distance.map fun distance => max 0 (1 - distance)
        matchedTags := matchedTags memory q.activeTags
        embeddingProviderId := row.embeddingProviderId }]

/-- The candidates that the rows have left out. -/
def remaining (candidates : List MemoryChunk) (hits : List (MemoryRetrievalHit φ)) :
    List MemoryChunk :=
  candidates.filter fun m => m.id ∉ hits.map fun hit => hit.memory.id

def vectorRanking (candidates : List MemoryChunk) (limit : ℤ) (vector : List φ) :
    Except String (List (MemoryRetrievalHit φ)) := do
  let rowLimit ← sqlLimit env.dialect (max (limit * 4) limit)
  let rows ← env.distances vector (candidates.map MemoryChunk.id) rowLimit
  let hits ← rows.foldlM (addRow env q candidates) []
  let others ← ((remaining candidates hits).map (baseHit q.activeTags)).mapM (score env q)
  return sliceFirst (sortHits env (hits ++ others)) limit

/-- The profile's `prompt_memory_limit`, or the caller's. -/
def promptLimit : Except String ℤ :=
  intSetting env.numbers q.profile "prompt_memory_limit" (if q.limit = 0 then 5 else q.limit)

/-- The candidates of the retrieval. -/
def candidates (db : Db) (limit : ℤ) : Except String (List MemoryChunk) := do
  let recallLimit ← intSetting env.numbers q.profile "vector_recall_limit" limit
  loadCandidateMemories db env.dialect env.updatedAt q env.now recallLimit

/-- What `retrieve_visible_memories` does with candidates. -/
def rankCandidates (loaded : List MemoryChunk) (limit : ℤ) :
    Except String (List (MemoryRetrievalHit φ)) := do
  match q.queryText.filter (· ≠ "") with
  | none => localRanking env q loaded limit
  | some queryText =>
    if ¬ env.supportsVectorSearch then localRanking env q loaded limit
    else if ¬ (← env.resolveEmbeddingProvider) then localRanking env q loaded limit
    else
      match env.embedTexts queryText with
      | .error _ => localRanking env q loaded limit
      | .ok [] => return []
      | .ok (vector :: _) => vectorRanking env q loaded limit vector

def retrieveVisibleMemories (db : Db) : Except String (List (MemoryRetrievalHit φ)) := do
  let limit ← promptLimit env q
  let loaded ← candidates env q db limit
  if loaded.isEmpty then return []
  rankCandidates env q loaded limit

end Retrieve

/-! ## What is asked of a retrieval -/

/-- The best of the candidates, in the order of their scores. -/
structure IsRanking (db : Db) (q : Query) (now : Timestamp) (candidates : List MemoryChunk)
    (limit : ℤ) (hits : List (MemoryRetrievalHit φ)) : Prop where
  length : (hits.length : ℤ) = min limit candidates.length
  distinct : (hits.map fun hit => hit.memory.id).Nodup
  visible : ∀ hit ∈ hits, hit.memory ∈ db.memories ∧
    Retrieval.IsCandidate db q.target q.ownerUserId q.activeTags now hit.memory
  sorted : ∃ scores : List φ, hits.map MemoryRetrievalHit.finalScore = scores.map some ∧
    scores.Pairwise fun x y => y ≤ x

/-- The retrieval returns the best of the candidates, which no provider has a say in. -/
def Sound (env : Environment φ) (q : Query) (db : Db) : Prop :=
  ∃ limit loaded hits, promptLimit env q = .ok limit ∧ candidates env q db limit = .ok loaded ∧
    retrieveVisibleMemories env q db = .ok hits ∧ IsRanking db q env.now loaded limit hits

/-- What the scores are made of. -/
def scoreNames : List String := ["vector", "importance", "recency", "confidence", "tag_match"]

/-- The weights in the profile are numbers. -/
def WeightsReadable (env : Environment φ) (q : Query) : Prop :=
  ∀ name ∈ scoreNames, ∃ x, weight env.numbers q.profile name = .ok x

/-- The way the retrieval takes with these candidates comes to an end: nothing is raised that it
does not catch, and a provider that embeds the query has a vector for it. -/
def PathWorks (env : Environment φ) (q : Query) (loaded : List MemoryChunk) (limit : ℤ) : Prop :=
  match q.queryText.filter (· ≠ "") with
  | none => WeightsReadable env q
  | some queryText =>
    if ¬ env.supportsVectorSearch then WeightsReadable env q
    else match env.resolveEmbeddingProvider with
      | .error _ => False
      | .ok false => WeightsReadable env q
      | .ok true =>
        match env.embedTexts queryText with
        | .error _ => WeightsReadable env q
        | .ok [] => limit = 0
        | .ok (vector :: _) => WeightsReadable env q ∧
            ∃ rowLimit rows, sqlLimit env.dialect (max (limit * 4) limit) = .ok rowLimit ∧
              env.distances vector (loaded.map MemoryChunk.id) rowLimit = .ok rows

/-- The limits are numbers, that of the prompt not negative and that of the query one the database
takes; with candidates, the way taken comes to an end. -/
def RanksAll (env : Environment φ) (q : Query) (db : Db) : Prop :=
  ∃ limit loaded, promptLimit env q = .ok limit ∧ 0 ≤ limit ∧
    candidates env q db limit = .ok loaded ∧ (loaded = [] ∨ PathWorks env q loaded limit)

end Arithmetic

/-! ## Loops that raise -/

section Loops

variable {α β ε : Type}

lemma foldlM_ok {f : β → α → Except ε β} {l : List α} (h : ∀ a ∈ l, ∀ b, ∃ b', f b a = .ok b') :
    ∀ b, ∃ b', l.foldlM f b = .ok b' := by
  induction l with
  | nil => exact fun b => ⟨b, rfl⟩
  | cons a l ih =>
    intro b
    obtain ⟨b₁, hb₁⟩ := h a List.mem_cons_self b
    obtain ⟨b₂, hb₂⟩ := ih (fun a ha => h a (List.mem_cons_of_mem _ ha)) b₁
    refine ⟨b₂, ?_⟩
    rw [List.foldlM_cons, hb₁]
    exact hb₂

lemma foldlM_error {f : β → α → Except ε β} {l : List α} {a : α} (ha : a ∈ l)
    (h : ∀ b, ∃ e, f b a = .error e) : ∀ b, ∃ e, l.foldlM f b = .error e := by
  induction l with
  | nil => cases ha
  | cons a' l ih =>
    intro b
    rw [List.foldlM_cons]
    rcases List.mem_cons.mp ha with rfl | ha
    · obtain ⟨e, he⟩ := h b
      exact ⟨e, by rw [he]; rfl⟩
    · cases hb : f b a' with
      | error e => exact ⟨e, rfl⟩
      | ok b₁ => exact ih ha b₁

lemma foldlM_induction {f : β → α → Except ε β} {P : β → Prop} {l : List α}
    (h : ∀ a ∈ l, ∀ b b', P b → f b a = .ok b' → P b') :
    ∀ {b b'}, P b → l.foldlM f b = .ok b' → P b' := by
  induction l with
  | nil =>
    intro b b' hb heq
    exact Except.ok.inj heq ▸ hb
  | cons a l ih =>
    intro b b' hb heq
    rw [List.foldlM_cons] at heq
    obtain ⟨b₁, hb₁, heq⟩ := except_bind_eq_ok.mp heq
    exact ih (fun a ha => h a (List.mem_cons_of_mem _ ha))
      (h a List.mem_cons_self b b₁ hb hb₁) heq

lemma mapM_ok {f : α → Except ε β} {g : α → β} (h : ∀ a, f a = .ok (g a)) (l : List α) :
    l.mapM f = .ok (l.map g) := by
  have hf : f = fun a => pure (g a) := funext h
  rw [hf, List.mapM_pure]
  rfl

lemma mapM_error {f : α → Except ε β} (h : ∀ a, ∃ e, f a = .error e) {l : List α} (hl : l ≠ []) :
    ∃ e, l.mapM f = .error e := by
  cases l with
  | nil => exact absurd rfl hl
  | cons a l =>
    obtain ⟨e, he⟩ := h a
    refine ⟨e, ?_⟩
    rw [List.mapM_cons, he]
    rfl

end Loops

/-! ## The hits -/

section Hits

variable {φ : Type} {q : Query}

/-- Scored hits on candidates, no two on one. -/
structure ScoredHits (loaded : List MemoryChunk) (hits : List (MemoryRetrievalHit φ)) : Prop where
  distinct : (hits.map fun hit => hit.memory.id).Nodup
  mem : ∀ hit ∈ hits, hit.memory ∈ loaded
  isSome : ∀ hit ∈ hits, hit.finalScore.isSome = true

lemma ScoredHits.nil {loaded : List MemoryChunk} :
    ScoredHits loaded ([] : List (MemoryRetrievalHit φ)) where
  distinct := List.nodup_nil
  mem := by simp
  isSome := by simp

lemma ScoredHits.append {loaded : List MemoryChunk} {hits others : List (MemoryRetrievalHit φ)}
    (h : ScoredHits loaded hits) (h' : ScoredHits loaded others)
    (hnew : ∀ hit ∈ others, hit.memory.id ∉ hits.map fun hit => hit.memory.id) :
    ScoredHits loaded (hits ++ others) where
  distinct := by
    rw [List.map_append]
    refine h.distinct.append h'.distinct fun id hid hid' => ?_
    obtain ⟨hit, hhit, rfl⟩ := List.mem_map.mp hid'
    exact hnew hit hhit hid
  mem := by
    intro hit hhit
    rcases List.mem_append.mp hhit with hhit | hhit
    · exact h.mem hit hhit
    · exact h'.mem hit hhit
  isSome := by
    intro hit hhit
    rcases List.mem_append.mp hhit with hhit | hhit
    · exact h.isSome hit hhit
    · exact h'.isSome hit hhit

lemma ScoredHits.length_eq {loaded : List MemoryChunk} {hits : List (MemoryRetrievalHit φ)}
    (h : ScoredHits loaded hits) (hall : ∀ m ∈ loaded, m.id ∈ hits.map fun hit => hit.memory.id)
    (hkeys : (loaded.map key).Nodup) : hits.length = loaded.length := by
  have hperm : (hits.map fun hit => hit.memory.id).Perm (loaded.map key) := by
    refine (List.perm_ext_iff_of_nodup h.distinct hkeys).mpr fun id =>
      ⟨fun hid => ?_, fun hid => ?_⟩
    · obtain ⟨hit, hhit, rfl⟩ := List.mem_map.mp hid
      exact List.mem_map_of_mem (h.mem hit hhit)
    · obtain ⟨m, hm, rfl⟩ := List.mem_map.mp hid
      exact hall m hm
  simpa using hperm.length_eq

lemma scoredHits_map {loaded some : List MemoryChunk}
    {g : MemoryRetrievalHit φ → MemoryRetrievalHit φ}
    (hg : ∀ hit, (g hit).memory = hit.memory ∧ (g hit).finalScore.isSome = true)
    (hsub : some.Sublist loaded) (hkeys : (loaded.map key).Nodup) :
    ScoredHits loaded ((some.map (baseHit q.activeTags)).map g) where
  distinct := by
    have hids : ((some.map (baseHit q.activeTags)).map g).map (fun hit => hit.memory.id) =
        some.map key := by
      rw [List.map_map, List.map_map]
      refine List.map_congr_left fun m _ => ?_
      simp [hg, baseHit]
    rw [hids]
    exact hkeys.sublist (hsub.map key)
  mem := by
    intro hit hhit
    obtain ⟨base, hbase, rfl⟩ := List.mem_map.mp hhit
    obtain ⟨m, hm, rfl⟩ := List.mem_map.mp hbase
    rw [(hg _).1]
    exact hsub.subset hm
  isSome := by
    intro hit hhit
    obtain ⟨base, -, rfl⟩ := List.mem_map.mp hhit
    exact (hg base).2

end Hits

/-! ## The candidates are in sight -/

section Candidates

variable {φ : Type} {env : Environment φ} {q : Query} {db : Db}

lemma sublist_of_candidates {limit : ℤ} {loaded : List MemoryChunk}
    (h : candidates env q db limit = .ok loaded) :
    loaded.Sublist (orderBy (fun m => OrderDual.toDual (env.updatedAt m))
        (matchingMemories db q env.now)) ∧
      ∀ m ∈ loaded, tagFiltered db q.target q.activeTags m = true := by
  obtain ⟨recallLimit, -, h⟩ := except_bind_eq_ok.mp h
  obtain ⟨rowLimit, -, h⟩ := except_bind_eq_ok.mp h
  cases rowLimit with
  | none =>
    obtain rfl := Except.ok.inj h
    exact ⟨List.filter_sublist, fun m hm => (List.mem_filter.mp hm).2⟩
  | some n =>
    obtain rfl := Except.ok.inj h
    exact ⟨List.filter_sublist.trans (List.take_sublist n _),
      fun m hm => (List.mem_filter.mp hm).2⟩

lemma isCandidate_of_candidates {limit : ℤ} {loaded : List MemoryChunk}
    (h : candidates env q db limit = .ok loaded) :
    ∀ m ∈ loaded, m ∈ db.memories ∧
      Retrieval.IsCandidate db q.target q.ownerUserId q.activeTags env.now m := by
  obtain ⟨hsub, htags⟩ := sublist_of_candidates h
  intro m hm
  obtain ⟨hmem, hmatch⟩ := List.mem_filter.mp (mem_orderBy.mp (hsub.subset hm))
  simp only [Bool.and_eq_true, decide_eq_true_eq] at hmatch
  obtain ⟨⟨⟨hactive, huntil⟩, hvisible⟩, -⟩ := hmatch
  refine ⟨hmem, hactive, fun validUntil hv => ?_, hvisible, htags m hm⟩
  rw [Option.mem_def.mp hv] at huntil
  exact of_decide_eq_true huntil

lemma nodup_candidates {limit : ℤ} {loaded : List MemoryChunk}
    (h : candidates env q db limit = .ok loaded) (hkeys : (db.memories.map key).Nodup) :
    (loaded.map key).Nodup := by
  have hmatching : ((matchingMemories db q env.now).map key).Nodup :=
    hkeys.sublist (List.filter_sublist.map key)
  have hordered := ((perm_orderBy (fun m => OrderDual.toDual (env.updatedAt m))
    (matchingMemories db q env.now)).map key).nodup_iff.mpr hmatching
  exact hordered.sublist ((sublist_of_candidates h).1.map key)

end Candidates

/-! ## The slice of the sorted hits -/

section Slice

variable {φ : Type} [LinearOrder φ] [Zero φ] {env : Environment φ} {q : Query} {db : Db}

/-- No hit has a lower score than one behind it. -/
def Descending (hits : List (MemoryRetrievalHit φ)) : Prop :=
  hits.Pairwise fun a b => ∀ x ∈ a.finalScore, ∀ y ∈ b.finalScore, y ≤ x

lemma descending_sortLocal (hits : List (MemoryRetrievalHit φ)) :
    Descending (sortLocal env hits) := by
  refine (pairwise_orderBy _ hits).imp fun {a b} hle x hx y hy => ?_
  have hscore := Prod.Lex.monotone_fst _ _ (OrderDual.toDual_le_toDual.mp hle)
  rwa [Option.mem_def.mp hx, Option.mem_def.mp hy] at hscore

omit [Zero φ] in
lemma descending_sortHits (hits : List (MemoryRetrievalHit φ)) :
    Descending (sortHits env hits) := by
  refine (pairwise_orderBy _ hits).imp fun {a b} hle x hx y hy => ?_
  have hscore := Prod.Lex.monotone_fst _ _ (OrderDual.toDual_le_toDual.mp hle)
  change scoreOrBottom b ≤ scoreOrBottom a at hscore
  rw [scoreOrBottom, scoreOrBottom, Option.mem_def.mp hx, Option.mem_def.mp hy] at hscore
  exact WithBot.coe_le_coe.mp hscore

lemma isRanking_slice {loaded : List MemoryChunk} {hits sorted : List (MemoryRetrievalHit φ)}
    {limit : ℤ} (hkeys : (loaded.map key).Nodup)
    (hcandidate : ∀ m ∈ loaded, m ∈ db.memories ∧
      Retrieval.IsCandidate db q.target q.ownerUserId q.activeTags env.now m)
    (hscored : ScoredHits loaded hits)
    (hall : ∀ m ∈ loaded, m.id ∈ hits.map fun hit => hit.memory.id)
    (hperm : sorted.Perm hits) (hdesc : Descending sorted) (hlimit : 0 ≤ limit) :
    IsRanking db q env.now loaded limit (sliceFirst sorted limit) := by
  have hsub := sliceFirst_sublist sorted limit
  have hmem : ∀ hit ∈ sliceFirst sorted limit, hit ∈ hits := fun hit hhit =>
    hperm.mem_iff.mp (hsub.subset hhit)
  constructor
  · rw [length_sliceFirst hlimit, hperm.length_eq, hscored.length_eq hall hkeys]
  · exact ((hperm.map _).nodup_iff.mpr hscored.distinct).sublist (hsub.map _)
  · exact fun hit hhit => hcandidate _ (hscored.mem hit (hmem hit hhit))
  · refine ⟨(sliceFirst sorted limit).map fun hit => hit.finalScore.getD 0, ?_, ?_⟩
    · rw [List.map_map]
      refine List.map_congr_left fun hit hhit => ?_
      obtain ⟨x, hx⟩ := Option.isSome_iff_exists.mp (hscored.isSome hit (hmem hit hhit))
      rw [Function.comp_apply, hx, Option.getD_some]
    · refine List.pairwise_map.mpr ((hdesc.sublist hsub).imp_of_mem ?_)
      intro a b ha hb hle
      obtain ⟨x, hx⟩ := Option.isSome_iff_exists.mp (hscored.isSome a (hmem a ha))
      obtain ⟨y, hy⟩ := Option.isSome_iff_exists.mp (hscored.isSome b (hmem b hb))
      rw [hx, hy]
      exact hle x hx y hy

end Slice

/-! ## Scoring -/

section Retrieve

variable {φ : Type} [LinearOrder φ] [Zero φ] [One φ] [Add φ] [Sub φ] [Mul φ] [Div φ] [IntCast φ]
variable {env : Environment φ} {q : Query} {db : Db}

omit [LinearOrder φ] [One φ] [Sub φ] [Div φ] [IntCast φ] in
lemma weightedSum_ok (h : WeightsReadable env q) {breakdown : List (String × φ)}
    (hnames : breakdown.map Prod.fst = scoreNames) :
    ∃ x, weightedSum env.numbers q.profile breakdown = .ok x := by
  refine foldlM_ok (fun item hitem total => ?_) 0
  obtain ⟨x, hx⟩ := h item.1 (hnames ▸ List.mem_map_of_mem hitem)
  exact ⟨total + item.2 * x, by rw [hx]; rfl⟩

omit [LinearOrder φ] [One φ] [Sub φ] [Div φ] [IntCast φ] in
lemma weightedSum_error (h : ¬ WeightsReadable env q) {breakdown : List (String × φ)}
    (hnames : breakdown.map Prod.fst = scoreNames) :
    ∃ e, weightedSum env.numbers q.profile breakdown = .error e := by
  unfold WeightsReadable at h
  push Not at h
  obtain ⟨name, hname, hweight⟩ := h
  obtain ⟨item, hitem, rfl⟩ := List.mem_map.mp (hnames ▸ hname)
  refine foldlM_error hitem (fun total => ?_) 0
  cases hx : weight env.numbers q.profile item.1 with
  | error e => exact ⟨e, rfl⟩
  | ok x => exact absurd hx (hweight x)

omit [Sub φ] [Mul φ] in
lemma map_fst_scoreBreakdown (updatedAt : MemoryChunk → Timestamp) (activeTags : List RowId)
    (now : Timestamp) (hit : MemoryRetrievalHit φ) :
    (scoreBreakdown updatedAt activeTags now hit).map Prod.fst = scoreNames := rfl

omit [Sub φ] in
lemma exists_score (h : WeightsReadable env q) :
    ∃ g : MemoryRetrievalHit φ → MemoryRetrievalHit φ, ∀ hit, score env q hit = .ok (g hit) ∧
      (g hit).memory = hit.memory ∧ (g hit).finalScore.isSome = true := by
  have hex : ∀ hit, ∃ hit', score env q hit = .ok hit' ∧ hit'.memory = hit.memory ∧
      hit'.finalScore.isSome = true := by
    intro hit
    obtain ⟨x, hx⟩ := weightedSum_ok h
      (map_fst_scoreBreakdown env.updatedAt q.activeTags (env.scoredAt hit.memory.id) hit)
    unfold score scoreHit
    dsimp only
    rw [hx]
    exact ⟨_, rfl, rfl, rfl⟩
  choose g hg using hex
  exact ⟨g, hg⟩

omit [Sub φ] in
lemma score_error (h : ¬ WeightsReadable env q) (hit : MemoryRetrievalHit φ) :
    ∃ e, score env q hit = .error e := by
  obtain ⟨e, he⟩ := weightedSum_error h
    (map_fst_scoreBreakdown env.updatedAt q.activeTags (env.scoredAt hit.memory.id) hit)
  refine ⟨e, ?_⟩
  unfold score scoreHit
  dsimp only
  rw [he]
  rfl

lemma scoredHits_addRow {loaded : List MemoryChunk} {hits hits' : List (MemoryRetrievalHit φ)}
    {row : DistanceRow φ} {g : MemoryRetrievalHit φ → MemoryRetrievalHit φ}
    (hg : ∀ hit, score env q hit = .ok (g hit) ∧ (g hit).memory = hit.memory ∧
      (g hit).finalScore.isSome = true)
    (h : ScoredHits loaded hits) (hrow : addRow env q loaded hits row = .ok hits') :
    ScoredHits loaded hits' := by
  unfold addRow at hrow
  split at hrow
  · exact Except.ok.inj hrow ▸ h
  · next memory hget =>
    split at hrow
    · exact Except.ok.inj hrow ▸ h
    · next hnew =>
      rw [(hg _).1] at hrow
      obtain rfl := Except.ok.inj hrow
      refine h.append ⟨List.nodup_singleton _, ?_, ?_⟩ ?_ <;> intro hit hhit <;>
        obtain rfl := List.mem_singleton.mp hhit
      · rw [(hg _).2.1]
        exact mem_of_get hget
      · exact (hg _).2.2
      · rw [(hg _).2.1]
        have hid : memory.id = row.memoryChunkId := key_of_get hget
        exact hid ▸ hnew

/-! ## The ways of the retrieval -/

omit [LinearOrder φ] [Zero φ] [One φ] [Add φ] [Sub φ] [Mul φ] [Div φ] [IntCast φ] in
lemma IsRanking.limit_nonneg [LinearOrder φ] {loaded : List MemoryChunk} {limit : ℤ}
    {hits : List (MemoryRetrievalHit φ)} (h : IsRanking db q env.now loaded limit hits) :
    0 ≤ limit := by
  have hlength := h.length
  have hle : min limit loaded.length ≤ limit := min_le_left _ _
  omega

/-- The candidates that are loaded. -/
structure Loaded (env : Environment φ) (q : Query) (db : Db) (loaded : List MemoryChunk) :
    Prop where
  keys : (loaded.map key).Nodup
  isCandidate : ∀ m ∈ loaded, m ∈ db.memories ∧
    Retrieval.IsCandidate db q.target q.ownerUserId q.activeTags env.now m

omit [Sub φ] in
lemma localRanking_iff {loaded : List MemoryChunk} {limit : ℤ} (hloaded : Loaded env q db loaded)
    (hne : loaded ≠ []) :
    (∃ hits, localRanking env q loaded limit = .ok hits ∧
      IsRanking db q env.now loaded limit hits) ↔ 0 ≤ limit ∧ WeightsReadable env q := by
  constructor
  · rintro ⟨hits, hhits, h⟩
    refine ⟨h.limit_nonneg, by_contra fun hweights => ?_⟩
    obtain ⟨e, he⟩ := mapM_error (score_error hweights)
      (l := loaded.map (baseHit q.activeTags)) (by simpa using hne)
    rw [localRanking, he] at hhits
    cases hhits
  · rintro ⟨hlimit, hweights⟩
    obtain ⟨g, hg⟩ := exists_score hweights
    refine ⟨sliceFirst (sortLocal env ((loaded.map (baseHit q.activeTags)).map g)) limit, ?_, ?_⟩
    · rw [localRanking, mapM_ok fun hit => (hg hit).1]
      rfl
    · refine isRanking_slice hloaded.keys hloaded.isCandidate
        (scoredHits_map (fun hit => (hg hit).2) (List.Sublist.refl loaded) hloaded.keys)
        (fun m hm => ?_) (perm_orderBy _ _) (descending_sortLocal _) hlimit
      rw [List.map_map, List.map_map]
      refine List.mem_map.mpr ⟨m, hm, ?_⟩
      simp [hg, baseHit]

lemma exists_rows {loaded : List MemoryChunk} (hweights : WeightsReadable env q)
    (rows : List (DistanceRow φ)) :
    ∃ hits, rows.foldlM (addRow env q loaded) [] = .ok hits ∧ ScoredHits loaded hits := by
  obtain ⟨g, hg⟩ := exists_score hweights
  have hturn : ∀ row ∈ rows, ∀ hits, ∃ hits', addRow env q loaded hits row = .ok hits' := by
    intro row _ hits
    unfold addRow
    split
    · exact ⟨hits, rfl⟩
    · split
      · exact ⟨hits, rfl⟩
      · rw [(hg _).1]
        exact ⟨_, rfl⟩
  obtain ⟨hits, hhits⟩ := foldlM_ok hturn []
  exact ⟨hits, hhits, foldlM_induction
    (fun row _ _ _ h hrow => scoredHits_addRow hg h hrow) ScoredHits.nil hhits⟩

lemma not_vectorRanking {loaded : List MemoryChunk} {limit : ℤ} {vector : List φ}
    (hweights : ¬ WeightsReadable env q) (hne : loaded ≠ []) :
    ∀ hits, vectorRanking env q loaded limit vector ≠ .ok hits := by
  intro hits hhits
  obtain ⟨rowLimit, -, hhits⟩ := except_bind_eq_ok.mp hhits
  obtain ⟨rows, -, hhits⟩ := except_bind_eq_ok.mp hhits
  obtain ⟨found, hfound, hhits⟩ := except_bind_eq_ok.mp hhits
  have hnil : found = [] := by
    refine foldlM_induction (P := fun hits => hits = []) (fun row _ b b' hb hrow => ?_) rfl hfound
    obtain rfl := hb
    unfold addRow at hrow
    split at hrow
    · exact (Except.ok.inj hrow).symm
    · rw [if_neg (by simp)] at hrow
      obtain ⟨hit, hhit, -⟩ := except_bind_eq_ok.mp hrow
      obtain ⟨e, he⟩ := score_error hweights _
      rw [he] at hhit
      cases hhit
  obtain rfl := hnil
  obtain ⟨others, hothers, -⟩ := except_bind_eq_ok.mp hhits
  obtain ⟨e, he⟩ := mapM_error (score_error hweights)
    (l := (remaining loaded ([] : List (MemoryRetrievalHit φ))).map (baseHit q.activeTags))
    (by simpa [remaining] using hne)
  rw [he] at hothers
  cases hothers

lemma vectorRanking_iff {loaded : List MemoryChunk} {limit : ℤ} {vector : List φ}
    (hloaded : Loaded env q db loaded) (hne : loaded ≠ []) :
    (∃ hits, vectorRanking env q loaded limit vector = .ok hits ∧
      IsRanking db q env.now loaded limit hits) ↔
        0 ≤ limit ∧ WeightsReadable env q ∧
          ∃ rowLimit rows, sqlLimit env.dialect (max (limit * 4) limit) = .ok rowLimit ∧
            env.distances vector (loaded.map MemoryChunk.id) rowLimit = .ok rows := by
  constructor
  · rintro ⟨hits, hhits, h⟩
    refine ⟨h.limit_nonneg, by_contra fun hweights => not_vectorRanking hweights hne hits hhits, ?_⟩
    obtain ⟨rowLimit, hrowLimit, hhits⟩ := except_bind_eq_ok.mp hhits
    obtain ⟨rows, hrows, -⟩ := except_bind_eq_ok.mp hhits
    exact ⟨rowLimit, rows, hrowLimit, hrows⟩
  · rintro ⟨hlimit, hweights, rowLimit, rows, hrowLimit, hrows⟩
    obtain ⟨g, hg⟩ := exists_score hweights
    obtain ⟨found, hfound, hscored⟩ :
        ∃ found, rows.foldlM (addRow env q loaded) [] = .ok found ∧ ScoredHits loaded found :=
      exists_rows hweights rows
    have hothers :
        ScoredHits loaded (((remaining loaded found).map (baseHit q.activeTags)).map g) :=
      scoredHits_map (fun hit => (hg hit).2) List.filter_sublist hloaded.keys
    have hid : ∀ m, (g (baseHit q.activeTags m)).memory.id = m.id := fun m => by
      rw [(hg _).2.1, baseHit]
    refine ⟨sliceFirst (sortHits env
      (found ++ ((remaining loaded found).map (baseHit q.activeTags)).map g)) limit, ?_, ?_⟩
    · rw [vectorRanking, hrowLimit]
      change (env.distances vector (loaded.map MemoryChunk.id) rowLimit >>= _) = _
      rw [hrows]
      change (rows.foldlM (addRow env q loaded) [] >>= _) = _
      rw [hfound]
      change (((remaining loaded found).map (baseHit q.activeTags)).mapM (score env q) >>= _) = _
      rw [mapM_ok fun hit => (hg hit).1]
      rfl
    · refine isRanking_slice hloaded.keys hloaded.isCandidate (hscored.append hothers ?_)
        (fun m hm => ?_) (perm_orderBy _ _) (descending_sortHits _) hlimit
      · intro hit hhit
        obtain ⟨base, hbase, rfl⟩ := List.mem_map.mp hhit
        obtain ⟨m, hm, rfl⟩ := List.mem_map.mp hbase
        rw [hid]
        exact of_decide_eq_true (List.mem_filter.mp hm).2
      · rw [List.map_append, List.mem_append]
        by_cases hfoundId : m.id ∈ found.map fun hit => hit.memory.id
        · exact .inl hfoundId
        · refine .inr (List.mem_map.mpr ⟨g (baseHit q.activeTags m), ?_, hid m⟩)
          exact List.mem_map_of_mem (List.mem_map_of_mem
            (List.mem_filter.mpr ⟨hm, decide_eq_true hfoundId⟩))

lemma rankCandidates_iff {loaded : List MemoryChunk} {limit : ℤ}
    (hloaded : Loaded env q db loaded) (hne : loaded ≠ []) :
    (∃ hits, rankCandidates env q loaded limit = .ok hits ∧
      IsRanking db q env.now loaded limit hits) ↔ 0 ≤ limit ∧ PathWorks env q loaded limit := by
  unfold rankCandidates PathWorks
  split
  · exact localRanking_iff hloaded hne
  · next queryText hquery =>
    split
    · exact localRanking_iff hloaded hne
    · cases hresolve : env.resolveEmbeddingProvider with
      | error e =>
        refine ⟨?_, fun h => h.2.elim⟩
        rintro ⟨hits, hhits, -⟩
        cases hhits
      | ok resolved =>
        cases resolved with
        | false => exact localRanking_iff hloaded hne
        | true =>
          cases hembed : env.embedTexts queryText with
          | error e => exact localRanking_iff hloaded hne
          | ok vectors =>
            cases vectors with
            | cons vector rest => exact vectorRanking_iff hloaded hne
            | nil =>
              constructor
              · rintro ⟨hits, hhits, h⟩
                obtain rfl := Except.ok.inj hhits
                have hlength := h.length
                have hnonneg := h.limit_nonneg
                have hpos := List.length_pos_of_ne_nil hne
                rw [List.length_nil] at hlength
                exact ⟨hnonneg, by omega⟩
              · rintro ⟨hlimit, rfl⟩
                refine ⟨[], rfl, ?_, List.nodup_nil, by simp, [], rfl, by simp⟩
                simp

/-- The retrieval returns the best of the candidates exactly when its limits and weights are
numbers, its limit is not negative and one the database takes, and, if there are candidates, no
failure of the embedding is left uncaught and no provider answers without a vector. -/
theorem sound_iff_ranksAll (hkeys : (db.memories.map key).Nodup) :
    Sound env q db ↔ RanksAll env q db := by
  refine exists_congr fun limit => exists_congr fun loaded => ?_
  have hretrieve : promptLimit env q = .ok limit → candidates env q db limit = .ok loaded →
      retrieveVisibleMemories env q db =
        if loaded.isEmpty then .ok [] else rankCandidates env q loaded limit := by
    intro hlimit hcandidates
    rw [retrieveVisibleMemories, hlimit]
    change (candidates env q db limit >>= _) = _
    rw [hcandidates]
    rfl
  constructor
  · rintro ⟨hits, hlimit, hcandidates, hhits, h⟩
    refine ⟨hlimit, h.limit_nonneg, hcandidates, ?_⟩
    by_cases hne : loaded = []
    · exact .inl hne
    · rw [hretrieve hlimit hcandidates, if_neg (by simpa using hne)] at hhits
      have hloaded : Loaded env q db loaded :=
        ⟨nodup_candidates hcandidates hkeys, isCandidate_of_candidates hcandidates⟩
      exact .inr ((rankCandidates_iff hloaded hne).mp ⟨hits, hhits, h⟩).2
  · rintro ⟨hlimit, hnonneg, hcandidates, hworks⟩
    by_cases hne : loaded = []
    · refine ⟨[], hlimit, hcandidates, ?_, ?_, List.nodup_nil, by simp, [], rfl, by simp⟩
      · rw [hretrieve hlimit hcandidates, if_pos (by simpa using hne)]
      · rw [hne]
        simpa using hnonneg
    · have hloaded : Loaded env q db loaded :=
        ⟨nodup_candidates hcandidates hkeys, isCandidate_of_candidates hcandidates⟩
      obtain ⟨hits, hhits, h⟩ :=
        (rankCandidates_iff hloaded hne).mpr ⟨hnonneg, hworks.resolve_left hne⟩
      refine ⟨hits, hlimit, hcandidates, ?_, h⟩
      rwa [hretrieve hlimit hcandidates, if_neg (by simpa using hne)]

end Retrieve

/-! ## A provider without a vector -/

/-- What Python makes of a number, in a profile without texts. -/
def exampleNumbers : Numbers ℚ where
  intOfText _ := none
  float
    | .int value => some value
    | .float value => some value
    | _ => none

def exampleEnvironment (vectors : List (List ℚ)) : Environment ℚ where
  numbers := exampleNumbers
  updatedAt _ := 0
  now := 0
  scoredAt _ := 0
  dialect := .postgresql
  hasRegistry := true
  resolveEmbeddingProvider := .ok true
  embedTexts _ := .ok vectors
  distances _ _ _ := .ok [⟨"m", some "p", some 0⟩, ⟨"m", some "p", some 0⟩, ⟨"gone", none, none⟩]

def exampleQuery : Query where
  activeTags := []
  target := .chatGroup "g"
  queryText := some "hello"
  profile := [("vector_weight", .float (9 / 20))]

def exampleDb : Db where
  memories := [
    { id := "m", chatGroupId := some "g", memoryPool := "room_local", scope := "dialogue",
      content := "likes tea" },
    { id := "n", chatGroupId := some "g", memoryPool := "room_local", scope := "dialogue",
      content := "likes rain" }]

/-- One of the two memories has a vector, which the query for the distances answers twice. -/
theorem embedded_query_sound : Sound (exampleEnvironment [[1]]) exampleQuery exampleDb := by
  refine (sound_iff_ranksAll (by decide)).mpr
    ⟨5, exampleDb.memories, rfl, by decide, ?_, .inr ⟨?_, some 20, _, rfl, rfl⟩⟩
  · rfl
  · intro name hname
    simp only [scoreNames, List.mem_cons, List.not_mem_nil, or_false] at hname
    rcases hname with rfl | rfl | rfl | rfl | rfl <;> exact ⟨_, rfl⟩

/-- The provider answers the query without a vector, and the memory in sight is not returned. -/
theorem vectorless_query_empty : ¬ Sound (exampleEnvironment []) exampleQuery exampleDb := by
  rintro ⟨limit, loaded, hits, hlimit, hloaded, hhits, h⟩
  obtain rfl : (5 : ℤ) = limit := Except.ok.inj hlimit
  obtain rfl : exampleDb.memories = loaded := Except.ok.inj hloaded
  obtain rfl : [] = hits := Except.ok.inj hhits
  exact absurd h.length (by decide)

end Ranking

end CocoonSit
