import CocoonSit.Lib.Run
import CocoonSit.Memory.Ops
import CocoonSit.Tags.Rows

/-!
# The tags of memory operations

An operation names tags by free texts.  `_resolve_tag_reference` looks a text up in the catalogue of
the owner's tags, bound to the target or not, takes the first that fits, and stores a text that
fits none as it is; where no text is left, the active tags are taken, or the tags that a candidate
has already.  So the tags written are tags of the target exactly when every text that counts, and
what is taken in place of none, is one of them.
-/

namespace CocoonSit

open Table TransitionSystem

namespace OpTags

/-! ## Tags of a target -/

/-- The tag belongs to the target's owner, and is bound to the target or the owner's system tag. -/
def IsTargetTag (db : Db) (target : Target) (t : TagRegistry) : Prop :=
  Owns db t.ownerUserId target ∧ (t.isSystem = true ∨ Bound db target t.id)

instance (db : Db) (target : Target) (t : TagRegistry) : Decidable (IsTargetTag db target t) :=
  inferInstanceAs (Decidable (_ ∧ (_ ∨ _)))

/-- The id of an existing tag of the target. -/
def TargetTag (db : Db) (target : Target) (id : String) : Prop :=
  ∃ t ∈ db.tags, t.id = id ∧ IsTargetTag db target t

instance (db : Db) (target : Target) (id : String) : Decidable (TargetTag db target id) :=
  inferInstanceAs (Decidable (∃ t ∈ db.tags, _))

section References

variable (text : TextFunctions)

/-- A reference names a tag: up to case and surrounding white space it is one of its labels. -/
def Names (ref : String) (t : TagRegistry) : Prop :=
  ∃ label ∈ t.labels, text.casefold (strip label) = text.casefold (strip ref)

/-- A reference names exactly one tag of the target. -/
def NamesOne (db : Db) (target : Target) (ref : String) : Prop :=
  ∃! t, t ∈ db.tags ∧ IsTargetTag db target t ∧ Names text ref t

/-- The catalogue's entry for a reference: the one under its text, or else the first that it
names. -/
def catalogueEntry (catalog : List (String × TagRegistry)) (ref : String) : Option TagRegistry :=
  ((catalog.find? fun entry => entry.1 = strip ref).map Prod.snd).or
    ((catalog.map Prod.snd).find? fun t =>
      t.labels.any fun label => text.casefold (strip label) = text.casefold (strip ref))

/-- The catalogue leads a reference to a tag of the target; a text that it does not know has to be
the id of one. -/
def LeadsToTag (ctx : MemoryContext) (db : Db) (ref : String) : Prop :=
  TargetTag db ctx.event.target
    ((catalogueEntry text ctx.tagCatalog ref).elim (strip ref) fun t => t.refOr (strip ref))

variable {text}

lemma resolveTagReference_of_blank {ref : String} (catalog : List (String × TagRegistry))
    (h : strip ref = "") : resolveTagReference text catalog ref = "" := by
  rw [resolveTagReference]
  exact if_pos h

lemma resolveTagReference_of_text {ref : String} (catalog : List (String × TagRegistry))
    (h : strip ref ≠ "") :
    resolveTagReference text catalog ref =
      (catalogueEntry text catalog ref).elim (strip ref) fun t => t.refOr (strip ref) := by
  rw [resolveTagReference, catalogueEntry]
  dsimp only
  rw [if_neg h]
  cases (catalog.find? fun entry => entry.1 = strip ref).map Prod.snd with
  | some direct => rfl
  | none => rw [Option.none_or]

lemma refOr_ne_empty (t : TagRegistry) {tag : String} (h : tag ≠ "") : t.refOr tag ≠ "" := by
  unfold TagRegistry.refOr
  split
  · assumption
  · split
    · assumption
    · exact h

lemma resolveTagReference_eq_empty_iff {catalog : List (String × TagRegistry)} {ref : String} :
    resolveTagReference text catalog ref = "" ↔ strip ref = "" := by
  constructor
  · intro h
    by_contra hne
    rw [resolveTagReference_of_text catalog hne] at h
    cases hentry : catalogueEntry text catalog ref with
    | none =>
      rw [hentry] at h
      exact hne h
    | some t =>
      rw [hentry] at h
      exact refOr_ne_empty t hne h
  · exact resolveTagReference_of_blank catalog

/-- What a reference contributes. -/
def contribution (text : TextFunctions) (ctx : MemoryContext) (ref : String) : Option String :=
  if strip ref = "" then none else some (resolveTagReference text ctx.tagCatalog ref)

lemma resolveMemoryOpTags_eq_collect (ctx : MemoryContext) (op : MemoryOperation) :
    resolveMemoryOpTags text ctx op = Collect.collect (contribution text ctx) op.tags := by
  unfold resolveMemoryOpTags Collect.collect
  congr 1
  funext resolved ref
  unfold Collect.collectStep contribution
  by_cases hblank : strip ref = ""
  · rw [if_pos hblank]
    dsimp only
    rw [if_neg fun h => h.1 (resolveTagReference_eq_empty_iff.mpr hblank)]
  · have hne : resolveTagReference text ctx.tagCatalog ref ≠ "" :=
      fun h => hblank (resolveTagReference_eq_empty_iff.mp h)
    rw [if_neg hblank]
    dsimp only
    by_cases hmem : resolveTagReference text ctx.tagCatalog ref ∈ resolved
    · rw [if_neg fun h => h.2 hmem, if_pos hmem]
    · rw [if_pos ⟨hne, hmem⟩, if_neg hmem]

lemma mem_resolveMemoryOpTags {ctx : MemoryContext} {op : MemoryOperation} {tag : String} :
    tag ∈ resolveMemoryOpTags text ctx op ↔
      ∃ ref ∈ op.tags, strip ref ≠ "" ∧ resolveTagReference text ctx.tagCatalog ref = tag := by
  rw [resolveMemoryOpTags_eq_collect, Collect.mem_collect]
  refine exists_congr fun ref => and_congr_right fun _ => ?_
  unfold contribution
  by_cases hblank : strip ref = ""
  · simp [hblank]
  · simp [hblank]

lemma resolveMemoryOpTags_eq_nil_iff {ctx : MemoryContext} {op : MemoryOperation} :
    resolveMemoryOpTags text ctx op = [] ↔ ∀ ref ∈ op.tags, strip ref = "" := by
  rw [List.eq_nil_iff_forall_not_mem]
  constructor
  · intro h ref href
    by_contra hne
    exact h _ (mem_resolveMemoryOpTags.mpr ⟨ref, href, hne, rfl⟩)
  · intro h tag htag
    obtain ⟨ref, href, hne, -⟩ := mem_resolveMemoryOpTags.mp htag
    exact hne (h ref href)

end References

/-! ## What an operation writes -/

/-- The operation is carried out with tags: it archives nothing and has a content. -/
def Carried (op : MemoryOperation) : Prop := op.op ≠ .archive ∧ strip op.content ≠ ""

instance (op : MemoryOperation) : Decidable (Carried op) := inferInstanceAs (Decidable (_ ∧ _))

/-- The tags that `upsert_candidate` leaves where it is given none. -/
def keptTags (ctx : MemoryContext) (db : Db) (op : MemoryOperation) : List String :=
  if op.op = .candidate ∨ op.importance < 3 then
    (findCandidate db ctx.event.target (strip op.content)
      (normalizeMemoryPool ctx.event.target op.memoryPool)).elim [] MemoryCandidate.tagsJson
  else []

/-- The tag ids that a turn of the loop writes, into `tags_json` and as `MemoryTag` rows. -/
def writtenTags (text : TextFunctions) (ctx : MemoryContext) (db : Db) (op : MemoryOperation) :
    List String :=
  if Carried op then
    if memoryOpTags text ctx op = [] then keptTags ctx db op else memoryOpTags text ctx op
  else []

/-- What is taken where no reference is left. -/
def fallbackTags (ctx : MemoryContext) (db : Db) (op : MemoryOperation) : List String :=
  if ctx.activeTags = [] then keptTags ctx db op else ctx.activeTags

/-- An operation writes tags of the target only, and a reference that does not name exactly one
contributes none. -/
structure TagsSound (text : TextFunctions) (ctx : MemoryContext) (db : Db) (op : MemoryOperation) :
    Prop where
  written : ∀ tag ∈ writtenTags text ctx db op, TargetTag db ctx.event.target tag
  references : Carried op → ∀ ref ∈ op.tags, ¬ NamesOne text db ctx.event.target ref →
    resolveTagReference text ctx.tagCatalog ref = ""

/-- Every reference that is not blank names exactly one tag of the target, and the catalogue leads
it to one; where there is no such reference, what is taken in its place are tags of the target. -/
structure TagsResolve (text : TextFunctions) (ctx : MemoryContext) (db : Db)
    (op : MemoryOperation) : Prop where
  named : ∀ ref ∈ op.tags, strip ref ≠ "" → NamesOne text db ctx.event.target ref
  led : ∀ ref ∈ op.tags, strip ref ≠ "" → LeadsToTag text ctx db ref
  fallback : (∀ ref ∈ op.tags, strip ref = "") →
    ∀ tag ∈ fallbackTags ctx db op, TargetTag db ctx.event.target tag

section Operations

variable {text : TextFunctions} {ctx : MemoryContext} {db db' : Db} {op : MemoryOperation}

lemma writtenTags_of_blank (text : TextFunctions) (hcarried : Carried op)
    (h : ∀ ref ∈ op.tags, strip ref = "") :
    writtenTags text ctx db op = fallbackTags ctx db op := by
  have hnil : resolveMemoryOpTags text ctx op = [] := resolveMemoryOpTags_eq_nil_iff.mpr h
  simp [writtenTags, fallbackTags, memoryOpTags, hcarried, hnil]

lemma writtenTags_of_text (hcarried : Carried op) (h : ¬ ∀ ref ∈ op.tags, strip ref = "") :
    writtenTags text ctx db op = resolveMemoryOpTags text ctx op := by
  have hne : resolveMemoryOpTags text ctx op ≠ [] :=
    fun hnil => h (resolveMemoryOpTags_eq_nil_iff.mp hnil)
  simp [writtenTags, memoryOpTags, hcarried, hne]

lemma tagsSound_iff :
    TagsSound text ctx db op ↔ (Carried op → TagsResolve text ctx db op) := by
  constructor
  · intro h hcarried
    refine { named := ?_, led := ?_, fallback := ?_ }
    · intro ref href hne
      by_contra hnamed
      exact hne (resolveTagReference_eq_empty_iff.mp (h.references hcarried ref href hnamed))
    · intro ref href hne
      have hwritten := h.written (resolveTagReference text ctx.tagCatalog ref) (by
        rw [writtenTags_of_text hcarried fun hblank => hne (hblank ref href)]
        exact mem_resolveMemoryOpTags.mpr ⟨ref, href, hne, rfl⟩)
      rwa [resolveTagReference_of_text _ hne] at hwritten
    · intro hblank
      rw [← writtenTags_of_blank text hcarried hblank]
      exact h.written
  · intro h
    refine { written := ?_, references := ?_ }
    · intro tag htag
      by_cases hcarried : Carried op
      · by_cases hblank : ∀ ref ∈ op.tags, strip ref = ""
        · rw [writtenTags_of_blank text hcarried hblank] at htag
          exact (h hcarried).fallback hblank tag htag
        · rw [writtenTags_of_text hcarried hblank] at htag
          obtain ⟨ref, href, hne, rfl⟩ := mem_resolveMemoryOpTags.mp htag
          rw [resolveTagReference_of_text _ hne]
          exact (h hcarried).led ref href hne
      · rw [writtenTags, if_neg hcarried] at htag
        cases htag
    · intro hcarried ref href hnamed
      by_contra hne
      rw [resolveTagReference_eq_empty_iff] at hne
      exact hnamed ((h hcarried).named ref href hne)

/-! ## What the rows say -/

/-- Only memories, candidates and memory tags have changed, and a tag id that has come into a row is
in `P`. -/
structure OnlyWrites (P : String → Prop) (db db' : Db) : Prop where
  frame : db' = { db with
    memories := db'.memories, memoryTags := db'.memoryTags
    memoryCandidates := db'.memoryCandidates }
  memories : ∀ m ∈ db'.memories, ∀ tag ∈ m.tagsJson,
    P tag ∨ ∃ m₀ ∈ db.memories, m₀.id = m.id ∧ tag ∈ m₀.tagsJson
  candidates : ∀ c ∈ db'.memoryCandidates, ∀ tag ∈ c.tagsJson,
    P tag ∨ ∃ c₀ ∈ db.memoryCandidates, c₀.id = c.id ∧ tag ∈ c₀.tagsJson
  memoryTags : ∀ r ∈ db'.memoryTags, P r.tagId ∨ r ∈ db.memoryTags

variable {P Q : String → Prop}

lemma OnlyWrites.refl (P : String → Prop) (db : Db) : OnlyWrites P db db where
  frame := rfl
  memories := fun m hm _ htag => .inr ⟨m, hm, rfl, htag⟩
  candidates := fun c hc _ htag => .inr ⟨c, hc, rfl, htag⟩
  memoryTags := fun _ hr => .inr hr

lemma OnlyWrites.trans {db₁ db₂ : Db} (h₁ : OnlyWrites P db db₁) (h₂ : OnlyWrites P db₁ db₂) :
    OnlyWrites P db db₂ where
  frame := by rw [h₂.frame, h₁.frame]
  memories := by
    intro m hm tag htag
    obtain hP | ⟨m₁, hm₁, hid₁, htag₁⟩ := h₂.memories m hm tag htag
    · exact .inl hP
    · obtain hP | ⟨m₀, hm₀, hid₀, htag₀⟩ := h₁.memories m₁ hm₁ tag htag₁
      · exact .inl hP
      · exact .inr ⟨m₀, hm₀, hid₀.trans hid₁, htag₀⟩
  candidates := by
    intro c hc tag htag
    obtain hP | ⟨c₁, hc₁, hid₁, htag₁⟩ := h₂.candidates c hc tag htag
    · exact .inl hP
    · obtain hP | ⟨c₀, hc₀, hid₀, htag₀⟩ := h₁.candidates c₁ hc₁ tag htag₁
      · exact .inl hP
      · exact .inr ⟨c₀, hc₀, hid₀.trans hid₁, htag₀⟩
  memoryTags := by
    intro r hr
    obtain hP | hr₁ := h₂.memoryTags r hr
    · exact .inl hP
    · exact h₁.memoryTags r hr₁

lemma OnlyWrites.mono (h : OnlyWrites P db db') (hPQ : ∀ tag, P tag → Q tag) :
    OnlyWrites Q db db' where
  frame := h.frame
  memories := fun m hm tag htag => (h.memories m hm tag htag).imp_left (hPQ tag)
  candidates := fun c hc tag htag => (h.candidates c hc tag htag).imp_left (hPQ tag)
  memoryTags := fun r hr => (h.memoryTags r hr).imp_left (hPQ r.tagId)

lemma OnlyWrites.targetTag (h : OnlyWrites P db db') {target : Target} {id : String} :
    TargetTag db' target id ↔ TargetTag db target id := by
  rw [h.frame]
  exact Iff.rfl

lemma onlyWrites_setMemoryStatus (P : String → Prop) (status : String) (db : Db) (id : String) :
    OnlyWrites P db (setMemoryStatus status db id) where
  frame := rfl
  memories := by
    intro m hm tag htag
    obtain ⟨m₀, hm₀, -, rfl⟩ | ⟨hm, -⟩ := mem_update.mp hm
    · exact .inr ⟨m₀, hm₀, rfl, htag⟩
    · exact .inr ⟨m, hm, rfl, htag⟩
  candidates := fun c hc _ htag => .inr ⟨c, hc, rfl, htag⟩
  memoryTags := fun _ hr => .inr hr

lemma onlyWrites_setMemoryStatuses (P : String → Prop) (status : String) (ids : List String)
    (db : Db) : OnlyWrites P db (ids.foldl (setMemoryStatus status) db) := by
  induction ids generalizing db with
  | nil => exact .refl P db
  | cons id ids ih => exact (onlyWrites_setMemoryStatus P status db id).trans (ih _)

lemma upsertCandidate_tagsJson (db : Db) (target : Target) (new : MemoryCandidate) :
    (upsertCandidate db target new).2.tagsJson =
      if new.tagsJson = [] then
        (findCandidate db target new.content new.memoryPool).elim [] MemoryCandidate.tagsJson
      else new.tagsJson := by
  unfold upsertCandidate
  cases findCandidate db target new.content new.memoryPool with
  | some item => simp [MemoryCandidate.hitBy]
  | none => by_cases hnil : new.tagsJson = [] <;> simp [hnil]

lemma onlyWrites_upsertCandidate {target : Target} {new : MemoryCandidate}
    (hnew : ∀ tag ∈ new.tagsJson, P tag) : OnlyWrites P db (upsertCandidate db target new).1 := by
  unfold upsertCandidate
  cases findCandidate db target new.content new.memoryPool with
  | some item =>
    refine { frame := rfl, memories := ?_, candidates := ?_, memoryTags := fun _ hr => .inr hr }
    · exact fun m hm _ htag => .inr ⟨m, hm, rfl, htag⟩
    · intro c hc tag htag
      obtain ⟨c₀, hc₀, -, rfl⟩ | ⟨hc, -⟩ := mem_update.mp hc
      · unfold MemoryCandidate.hitBy at htag ⊢
        dsimp only at htag ⊢
        split at htag
        · exact .inr ⟨c₀, hc₀, rfl, htag⟩
        · exact .inl (hnew tag htag)
      · exact .inr ⟨c, hc, rfl, htag⟩
  | none =>
    refine { frame := rfl, memories := ?_, candidates := ?_, memoryTags := fun _ hr => .inr hr }
    · exact fun m hm _ htag => .inr ⟨m, hm, rfl, htag⟩
    · intro c hc tag htag
      obtain hc | hc := List.mem_append.mp hc
      · exact .inr ⟨c, hc, rfl, htag⟩
      · rw [List.mem_singleton.mp hc] at htag
        exact .inl (hnew tag htag)

lemma onlyWrites_insertMemory {memory : MemoryChunk} {memoryId : RowId} {tags : List String}
    (hmemory : ∀ tag ∈ memory.tagsJson, P tag) (htags : ∀ tag ∈ tags, P tag) :
    OnlyWrites P db
      (addMemoryTags { db with memories := db.memories ++ [memory] } memoryId tags) where
  frame := rfl
  memories := by
    intro m hm tag htag
    obtain hm | hm := List.mem_append.mp hm
    · exact .inr ⟨m, hm, rfl, htag⟩
    · rw [List.mem_singleton.mp hm] at htag
      exact .inl (hmemory tag htag)
  candidates := fun c hc _ htag => .inr ⟨c, hc, rfl, htag⟩
  memoryTags := by
    intro r hr
    obtain hr | hr := List.mem_append.mp hr
    · exact .inr hr
    · obtain ⟨tag, htag, rfl⟩ := List.mem_map.mp hr
      exact .inl (htags tag htag)

lemma onlyWrites_promoteCandidate {candidate : MemoryCandidate} (sourceKind : String)
    (memoryId : RowId) (hcandidate : ∀ tag ∈ candidate.tagsJson, P tag) :
    OnlyWrites P db (promoteCandidateToMemory db candidate sourceKind memoryId) := by
  have hinsert : OnlyWrites P db
      (addMemoryTags { db with memories := db.memories ++ [candidate.toMemory sourceKind memoryId] }
        memoryId candidate.tagsJson) := onlyWrites_insertMemory hcandidate hcandidate
  refine hinsert.trans { frame := rfl, memories := ?_, candidates := ?_, memoryTags := ?_ }
  · exact fun m hm _ htag => .inr ⟨m, hm, rfl, htag⟩
  · exact fun c hc _ htag => .inr ⟨c, (List.mem_filter.mp hc).1, rfl, htag⟩
  · exact fun _ hr => .inr hr

lemma mem_writtenTags_of_mem (hcarried : Carried op) {tag : String}
    (h : tag ∈ memoryOpTags text ctx op) : tag ∈ writtenTags text ctx db op := by
  rw [writtenTags, if_pos hcarried, if_neg (List.ne_nil_of_mem h)]
  exact h

lemma onlyWrites_persistCandidate (hcarried : Carried op)
    (hlow : op.op = .candidate ∨ op.importance < 3) (keys : MemoryKeys) (now : Timestamp) :
    OnlyWrites (· ∈ writtenTags text ctx db op) db
      (persistCandidate text ctx db op keys now) := by
  have htags : (op.toCandidate text ctx (resolveMemoryOwnerUserId db ctx) keys.candidateId
      now).tagsJson = memoryOpTags text ctx op := MemoryOperation.toCandidate_tagsJson ..
  have hcontent : (op.toCandidate text ctx (resolveMemoryOwnerUserId db ctx) keys.candidateId
      now).content = strip op.content := rfl
  have hpool : (op.toCandidate text ctx (resolveMemoryOwnerUserId db ctx) keys.candidateId
      now).memoryPool = normalizeMemoryPool ctx.event.target op.memoryPool :=
    MemoryOperation.toCandidate_memoryPool ..
  unfold persistCandidate
  dsimp only
  generalize op.toCandidate text ctx (resolveMemoryOwnerUserId db ctx) keys.candidateId now = new
    at htags hcontent hpool ⊢
  have hleft : (upsertCandidate db ctx.event.target new).2.tagsJson =
      writtenTags text ctx db op := by
    rw [upsertCandidate_tagsJson, htags, hcontent, hpool, writtenTags, if_pos hcarried, keptTags,
      if_pos hlow]
  have hupsert : OnlyWrites (· ∈ writtenTags text ctx db op) db
      (upsertCandidate db ctx.event.target new).1 :=
    onlyWrites_upsertCandidate fun tag htag => mem_writtenTags_of_mem hcarried (htags ▸ htag)
  split
  · exact hupsert.trans (onlyWrites_promoteCandidate _ _ fun tag htag => hleft ▸ htag)
  · exact hupsert

lemma onlyWrites_persistMemory (hcarried : Carried op) (keys : MemoryKeys) :
    OnlyWrites (· ∈ writtenTags text ctx db op) db (persistMemory text ctx db op keys) := by
  have hwritten : ∀ tag ∈ memoryOpTags text ctx op, tag ∈ writtenTags text ctx db op :=
    fun tag htag => mem_writtenTags_of_mem hcarried htag
  unfold persistMemory
  split
  · -- the memory the operation names
    rename_i memory _
    refine { frame := rfl, memories := ?_, candidates := ?_, memoryTags := ?_ }
    · intro m hm tag htag
      obtain ⟨m₀, -, -, rfl⟩ | ⟨hm, -⟩ := mem_update.mp hm
      · exact .inl (hwritten tag htag)
      · exact .inr ⟨m, hm, rfl, htag⟩
    · exact fun c hc _ htag => .inr ⟨c, hc, rfl, htag⟩
    · intro r hr
      obtain hr | hr := List.mem_append.mp hr
      · exact .inr (List.mem_filter.mp hr).1
      · obtain ⟨tag, htag, rfl⟩ := List.mem_map.mp hr
        exact .inl (hwritten tag htag)
  · -- a new memory
    exact onlyWrites_insertMemory hwritten hwritten

lemma onlyWrites_persistMemoryOp (text : TextFunctions) (ctx : MemoryContext) (now : Timestamp)
    (db : Db) (op : MemoryOperation) (keys : MemoryKeys) :
    OnlyWrites (· ∈ writtenTags text ctx db op) db (persistMemoryOp text ctx now db op keys) := by
  unfold persistMemoryOp
  split
  · cases op.target? with
    | none => exact onlyWrites_setMemoryStatuses _ "archived" op.supersedesMemoryIds db
    | some memoryId =>
      exact (onlyWrites_setMemoryStatus _ "archived" db memoryId).trans
        (onlyWrites_setMemoryStatuses _ "archived" op.supersedesMemoryIds _)
  · rename_i hkind
    split
    · exact .refl _ db
    · rename_i hcontent
      have hcarried : Carried op := ⟨hkind, hcontent⟩
      split
      · rename_i hlow
        exact onlyWrites_persistCandidate hcarried hlow keys now
      · exact (onlyWrites_persistMemory hcarried keys).trans
          (onlyWrites_setMemoryStatuses _ "contradicted" op.supersedesMemoryIds _)

end Operations

/-! ## The loop -/

/-- The loop of `persist_memory_ops` takes the operations one after the other. -/
def persistStep (text : TextFunctions) (ctx : MemoryContext) (now : Timestamp) (db : Db)
    (call : MemoryOperation × MemoryKeys) : Option Db :=
  some (persistMemoryOp text ctx now db call.1 call.2)

/-- The operations with the keys they draw. -/
def calls (keys : ℕ → MemoryKeys) (ops : List MemoryOperation) :
    List (MemoryOperation × MemoryKeys) :=
  ops.zipIdx.map fun op => (op.1, keys op.2)

lemma run_calls (text : TextFunctions) (ctx : MemoryContext) (now : Timestamp)
    (keys : ℕ → MemoryKeys) (ops : List MemoryOperation) (db : Db) :
    run (persistStep text ctx now) db (calls keys ops) =
      some (persistMemoryOps text ctx now keys ops db) := by
  unfold calls persistMemoryOps
  induction ops.zipIdx generalizing db with
  | nil => rfl
  | cons op items ih => exact ih _

/-- Along a whole call, whatever the context and the operations: every operation writes tags of the
target only, and lets references that do not name exactly one contribute nothing, if and only if
every operation that is carried out has references, or a fallback, that lead to tags of the target.
Then every tag id that has come into a row is one. -/
theorem writtenTags_sound_iff (text : TextFunctions) (ctx : MemoryContext) (now : Timestamp)
    (keys : ℕ → MemoryKeys) (ops : List MemoryOperation) (db : Db) :
    (AllSteps (persistStep text ctx now) (fun db op _ => TagsSound text ctx db op.1) db
        (calls keys ops) ↔
      StepsMeet (persistStep text ctx now)
        (fun db op => Carried op.1 → TagsResolve text ctx db op.1) db (calls keys ops)) ∧
    (StepsMeet (persistStep text ctx now)
        (fun db op => Carried op.1 → TagsResolve text ctx db op.1) db (calls keys ops) →
      OnlyWrites (TargetTag db ctx.event.target) db
        (persistMemoryOps text ctx now keys ops db)) := by
  constructor
  · refine allSteps_iff_stepsMeet (fun _ => True) (fun s call _ => ?_) (fun _ _ _ _ _ _ => trivial)
      trivial
    rw [← tagsSound_iff]
    exact ⟨fun h => h _ rfl, fun h _ _ => h⟩
  · intro hmeet
    refine invariant_of_stepsMeet (fun db' => OnlyWrites (TargetTag db ctx.event.target) db db')
      ?_ (.refl _ db) hmeet (run_calls text ctx now keys ops db)
    rintro s call s' hs hok ⟨⟩
    have hsound := tagsSound_iff.mpr hok
    have hwrites := onlyWrites_persistMemoryOp text ctx now s call.1 call.2
    exact hs.trans (hwrites.mono fun tag htag => hs.targetTag.mp (hsound.written tag htag))

/-- A cocoon whose owner has the system tag and one more tag, which is not bound to the cocoon. -/
def unboundDb : Db where
  tags := [
    { id := "t0", ownerUserId := "u", tagId := "default", brief := "Default", isSystem := true },
    { id := "t1", ownerUserId := "u", tagId := "private", brief := "Private" }]
  tagBindings := [⟨.cocoon "c", "t0", 0⟩]
  cocoons := [{ id := "c", ownerUserId := "u", characterId := "ch" }]
  users := ["u"]

/-- A round of the cocoon, with the catalogue of its owner's tags. -/
def unboundContext : MemoryContext where
  event := { eventType := .chat, target := .cocoon "c", actionId := "a" }
  characterId := "ch"
  memoryOwnerUserId := some "u"
  activeTags := ["t0"]
  tagCatalog := tagCatalogByRef unboundDb.tags

/-- `str.casefold` on lower-case ASCII. -/
def plainText : TextFunctions where
  casefold := fun s => s
  fromisoformat := fun _ => none

/-- A text that names no tag is stored as it is, and a tag that is not bound to the cocoon under its
id. -/
theorem strayReferences_not_sound :
    (persistMemoryOps plainText unboundContext 0 (fun _ => ⟨"m", "k"⟩)
        [{ op := .upsert, content := "Likes rain", tags := ["weather", "private"] }]
        unboundDb).memoryTags.map MemoryTag.tagId = ["weather", "t1"] ∧
      ¬ AllSteps (persistStep plainText unboundContext 0)
        (fun db op _ => TagsSound plainText unboundContext db op.1) unboundDb
        (calls (fun _ => ⟨"m", "k"⟩)
          [{ op := .upsert, content := "Likes rain", tags := ["weather", "private"] }]) := by
  refine ⟨by decide +kernel, fun h => ?_⟩
  have hsound := h.1 _ rfl
  exact absurd (hsound.written "weather" (by decide +kernel)) (by decide +kernel)

end OpTags

end CocoonSit
