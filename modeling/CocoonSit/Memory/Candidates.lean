import CocoonSit.Lib.Run
import CocoonSit.Memory.Summaries
import Mathlib.Data.List.Chain

/-!
# Candidates and their sightings

A text that is not important enough for a memory becomes a candidate; when it has come up often
enough, it is promoted.  `upsert_candidate` counts the sightings and gives the candidate a new term
with each, and `MemoryMaintenanceJobService` removes candidates whose term is over; but a candidate
whose term is over, and which has not been removed yet, is counted on.
-/

namespace CocoonSit

open Table TransitionSystem

namespace Candidates

/-! ## Sightings -/

/-- What a candidate is looked up by. -/
structure CandidateKey where
  target : Target
  content : String
  memoryPool : String
deriving DecidableEq

/-- The row is one that `upsert_candidate` finds under the key. -/
def CandidateKey.matches (k : CandidateKey) (c : MemoryCandidate) : Bool :=
  c.content = k.content && c.memoryPool = k.memoryPool &&
    match k.target with
    | .cocoon id => c.cocoonId = some id
    | .chatGroup id => c.chatGroupId = some id

/-- A call of `upsert_candidate`, and what its caller does then. -/
structure Sighting where
  target : Target
  /-- The columns that do not depend on the call's time. -/
  columns : MemoryCandidate
  ttlHours : ℤ
  promoteHits : ℤ
  sourceKind : String
  keys : MemoryKeys

/-- The row that `upsert_candidate` would insert. -/
def Sighting.candidate (x : Sighting) (now : Timestamp) : MemoryCandidate :=
  { x.columns with
    id := x.keys.candidateId
    cocoonId := x.target.cocoonId?
    chatGroupId := x.target.chatGroupId?
    hitCount := 1
    firstSeenAt := now
    lastSeenAt := now
    validUntil := some (now + 3600000000 * (max x.ttlHours 1).toNat) }

def Sighting.key (x : Sighting) : CandidateKey :=
  ⟨x.target, x.columns.content, x.columns.memoryPool⟩

/-- A candidate is counted, and promoted when it has come up often enough: the candidate as it has
been counted. -/
def sight (db : Db) (x : Sighting) (now : Timestamp) : Db × MemoryCandidate :=
  let (db, candidate) := upsertCandidate db x.target (x.candidate now)
  if x.promoteHits ≤ candidate.hitCount then
    (promoteCandidateToMemory db candidate x.sourceKind x.keys.memoryId, candidate)
  else (db, candidate)

/-- The sighting of an operation of a round. -/
def sightingOfOp (text : TextFunctions) (ctx : MemoryContext) (db : Db) (op : MemoryOperation)
    (keys : MemoryKeys) : Sighting where
  target := ctx.event.target
  columns := op.toCandidate text ctx (resolveMemoryOwnerUserId db ctx) keys.candidateId 0
  ttlHours := ctx.candidateTtlHours
  promoteHits := ctx.candidatePromoteHits
  sourceKind := "candidate_promotion"
  keys := keys

lemma persistCandidate_eq_sight (text : TextFunctions) (ctx : MemoryContext) (db : Db)
    (op : MemoryOperation) (keys : MemoryKeys) (now : Timestamp) :
    persistCandidate text ctx db op keys now =
      (sight db (sightingOfOp text ctx db op keys) now).1 := by
  have hrow : (sightingOfOp text ctx db op keys).candidate now =
      op.toCandidate text ctx (resolveMemoryOwnerUserId db ctx) keys.candidateId now := rfl
  unfold sight
  rw [hrow]
  rw [apply_ite Prod.fst]
  rfl

/-- The sighting of an item of low importance, with its tags, that a compaction or a reorganisation
stores. -/
def sightingOfItem (source : SummarySource) (ctx : SummaryContext) (item : CompactionMemoryItem)
    (tagIds : List RowId) (keys : MemoryKeys) : Sighting where
  target := .cocoon ctx.cocoon.id
  columns := item.toCandidate source ctx tagIds keys.candidateId
  ttlHours := ctx.candidateTtlHours
  promoteHits := ctx.candidatePromoteHits
  sourceKind := source.promotionKind
  keys := keys

lemma storeItem_eq_sight {source : SummarySource} {ctx : SummaryContext} {db tagged : Db}
    {item : CompactionMemoryItem} {keys : MemoryKeys} {tagIds : List RowId}
    (htext : ¬ (strip item.summary = "" ∨ strip item.content = "")) (hlow : item.importance < 3)
    (htags : canonicalizeTagRefs db (ctx.defaultTagId :: item.resolvedTags ctx.catalog) true
      (some ctx.cocoon.ownerUserId) ctx.newTagId = (tagged, tagIds)) :
    (storeItem source ctx db item keys).1 =
      (sight tagged (sightingOfItem source ctx item tagIds keys) ctx.now).1 := by
  have hrow : (sightingOfItem source ctx item tagIds keys).candidate ctx.now =
      item.toCandidate source ctx tagIds keys.candidateId := rfl
  unfold storeItem sight
  rw [if_neg htext, htags, hrow]
  dsimp only
  rw [if_pos hlow]
  rw [apply_ite Prod.fst, apply_ite Prod.fst]
  rfl

/-! ## Maintenance -/

/-- What `MemoryMaintenanceJobService` reads of the settings. -/
structure MaintenanceProfile where
  maintenanceDecayDays : ℤ := 90
  archiveAfterDays : ℤ := 180

/-- `now - timedelta(days=…)`. -/
def daysBefore (now : Timestamp) (days : ℤ) : ℤ := now - 86400000000 * days

/-- A memory that has not been accessed for long fades, and is archived in the end; `changedAt` is
`updated_at`. -/
def decay (profile : MaintenanceProfile) (now : Timestamp) (changedAt : MemoryChunk → Timestamp)
    (m : MemoryChunk) : MemoryChunk :=
  if m.status = "active" ∧ m.lastAccessedAt.all
      fun (at_ : Timestamp) => (at_ : ℤ) < daysBefore now profile.maintenanceDecayDays then
    { m with
      importance := if 0 < m.importance then max 0 (m.importance - 1) else m.importance
      status :=
        if ((m.lastAccessedAt.getD (changedAt m) : ℕ) : ℤ) <
            daysBefore now profile.archiveAfterDays then "archived"
        else m.status }
  else m

/-- `MemoryMaintenanceJobService.execute`. -/
def maintain (profile : MaintenanceProfile) (changedAt : MemoryChunk → Timestamp) (now : Timestamp)
    (db : Db) : Db :=
  { db with
    memoryCandidates := db.memoryCandidates.filter fun c => !c.validUntil.any fun v => v < now
    memories := db.memories.map (decay profile now changedAt) }

/-! ## Histories -/

/-- What a sighting has come to. -/
structure Sighted where
  key : CandidateKey
  seenAt : Timestamp
  validUntil : Timestamp
  hitCount : ℤ
  promoteHits : ℤ

def Sighted.Promoted (x : Sighted) : Prop := x.promoteHits ≤ x.hitCount

instance (x : Sighted) : Decidable x.Promoted := inferInstanceAs (Decidable (_ ≤ _))

/-- The sighting as it is noted. -/
def noted (db : Db) (x : Sighting) (now : Timestamp) : Sighted where
  key := x.key
  seenAt := now
  validUntil := now + 3600000000 * (max x.ttlHours 1).toNat
  hitCount := (sight db x now).2.hitCount
  promoteHits := x.promoteHits

structure State where
  db : Db
  /-- The sightings there have been, the last first. -/
  sightings : List Sighted := []

inductive Event where
  | sight (x : Sighting) (now : Timestamp)
  | maintain (profile : MaintenanceProfile) (changedAt : MemoryChunk → Timestamp) (now : Timestamp)
  /-- Anything else, which may remove candidates. -/
  | other (db : Db) (removes : MemoryCandidate → Bool)

/-- A candidate's key is drawn fresh. -/
def step (s : State) : Event → Option State
  | .sight x now =>
    if x.keys.candidateId ∈ s.db.memoryCandidates.map MemoryCandidate.id then none
    else
      some
        { db := (Candidates.sight s.db x now).1
          sightings := noted s.db x now :: s.sightings }
  | .maintain profile changedAt now => some { s with db := maintain profile changedAt now s.db }
  | .other db removes =>
    some { s with db := { db with
      memoryCandidates := s.db.memoryCandidates.filter fun c => !removes c } }

/-- The sightings of one text, the last first. -/
def ofKey (k : CandidateKey) (sightings : List Sighted) : List Sighted :=
  sightings.filter fun x => x.key = k

/-- A sighting comes in the term of the one before. -/
def Sighted.InTermOf (x previous : Sighted) : Prop := x.seenAt < previous.validUntil

/-- The last `n` of the sightings have come in the term of the one before, the first of them
apart. -/
def Consecutive (n : ℕ) (sightings : List Sighted) : Prop :=
  n ≤ sightings.length ∧ (sightings.take n).IsChain Sighted.InTermOf

/-- What is asked of the last sighting: it has promoted its candidate only if the text has come up
as often as that takes, each time in the term of the time before; out of that term, the count starts
afresh; and a candidate that is promoted is gone. -/
def Sound (s : State) : Prop :=
  match s.sightings with
  | [] => True
  | x :: older =>
    (x.Promoted → Consecutive x.promoteHits.toNat (ofKey x.key (x :: older))) ∧
    (∀ previous ∈ (ofKey x.key older).head?, previous.validUntil ≤ x.seenAt → x.hitCount = 1) ∧
    (x.Promoted → ∀ c ∈ s.db.memoryCandidates, x.key.matches c = false)

/-- The sighting finds no candidate whose term is over. -/
def Unexpired (s : State) : Event → Prop
  | .sight x now =>
    x.keys.candidateId ∉ s.db.memoryCandidates.map MemoryCandidate.id →
      ∀ c ∈ findCandidate s.db x.target x.columns.content x.columns.memoryPool,
        ∀ v ∈ c.validUntil, now < v
  | _ => True

/-! ## The rows after a sighting -/

section Rows

variable {db : Db} {x : Sighting} {now : Timestamp} {c item : MemoryCandidate} {k : CandidateKey}

lemma matches_iff : k.matches c = true ↔ c.content = k.content ∧ c.memoryPool = k.memoryPool ∧
    (∀ id, k.target = .cocoon id → c.cocoonId = some id) ∧
      ∀ id, k.target = .chatGroup id → c.chatGroupId = some id := by
  unfold CandidateKey.matches
  cases k.target <;> simp [and_assoc]

lemma eq_key_of_matches (h : k.matches (x.candidate now) = true) : k = x.key := by
  obtain ⟨hcontent, hpool, hcocoon, hroom⟩ := matches_iff.mp h
  have htarget : k.target = x.target := by
    cases hk : k.target with
    | cocoon id =>
      have hid : x.target.cocoonId? = some id := hcocoon id hk
      cases hx : x.target <;> rw [hx] at hid <;> cases hid
      rfl
    | chatGroup id =>
      have hid : x.target.chatGroupId? = some id := hroom id hk
      cases hx : x.target <;> rw [hx] at hid <;> cases hid
      rfl
  cases k
  cases htarget
  cases hcontent
  cases hpool
  rfl

lemma mem_sight (hids : (db.memoryCandidates.map MemoryCandidate.id).Nodup)
    (hfresh : x.keys.candidateId ∉ db.memoryCandidates.map MemoryCandidate.id) :
    c ∈ (sight db x now).1.memoryCandidates ↔
      (c ∈ db.memoryCandidates ∧ c.id ≠ (sight db x now).2.id) ∨
      (c = (sight db x now).2 ∧ ¬ x.promoteHits ≤ (sight db x now).2.hitCount) := by
  have hnew : ∀ c ∈ db.memoryCandidates, c.id ≠ (x.candidate now).id := fun c hc heq =>
    hfresh (List.mem_map.mpr ⟨c, hc, heq⟩)
  unfold sight upsertCandidate
  cases hfind : findCandidate db x.target (x.candidate now).content
    (x.candidate now).memoryPool with
  | none =>
    dsimp only
    split
    · next hpromoted =>
      simp only [promoteCandidateToMemory, addMemoryTags, List.mem_filter, List.mem_append,
        List.mem_singleton, decide_eq_true_eq, hpromoted, not_true, and_false, or_false]
      exact ⟨fun ⟨hmem, hne⟩ => ⟨hmem.resolve_right fun heq => hne (heq ▸ rfl), hne⟩,
        fun ⟨hmem, hne⟩ => ⟨.inl hmem, hne⟩⟩
    · next hkept =>
      simp only [List.mem_append, List.mem_singleton, hkept, not_false_eq_true, and_true]
      exact or_congr_left ⟨fun hmem => ⟨hmem, hnew c hmem⟩, And.left⟩
  | some item =>
    have hitem : item ∈ db.memoryCandidates := List.mem_of_find?_eq_some hfind
    have hrow : ∀ c ∈ db.memoryCandidates, c.id = item.id → c = item := fun c hc heq =>
      List.inj_on_of_nodup_map hids hc hitem heq
    dsimp only
    split
    · next hpromoted =>
      simp only [promoteCandidateToMemory, addMemoryTags, List.mem_filter, decide_eq_true_eq,
        hpromoted, not_true, and_false, or_false, mem_update]
      constructor
      · rintro ⟨⟨c, hc, hid, rfl⟩ | ⟨hmem, -⟩, hne⟩
        · exact absurd hid hne
        · exact ⟨hmem, hne⟩
      · rintro ⟨hmem, hne⟩
        exact ⟨.inr ⟨hmem, hne⟩, hne⟩
    · next hkept =>
      simp only [mem_update, hkept, not_false_eq_true, and_true]
      constructor
      · rintro (⟨c, hc, hid, rfl⟩ | hother)
        · rw [hrow c hc hid]
          exact .inr rfl
        · exact .inl hother
      · rintro (hother | rfl)
        · exact .inr hother
        · exact .inl ⟨item, hitem, rfl, rfl⟩

lemma nodup_sight (hids : (db.memoryCandidates.map MemoryCandidate.id).Nodup)
    (hfresh : x.keys.candidateId ∉ db.memoryCandidates.map MemoryCandidate.id) :
    ((sight db x now).1.memoryCandidates.map MemoryCandidate.id).Nodup := by
  have hfilter : ∀ (t : List MemoryCandidate) (id : RowId), (t.map MemoryCandidate.id).Nodup →
      ((t.filter fun c => c.id ≠ id).map MemoryCandidate.id).Nodup := fun t id h =>
    h.sublist (List.filter_sublist.map _)
  unfold sight upsertCandidate
  cases hfind : findCandidate db x.target (x.candidate now).content
    (x.candidate now).memoryPool with
  | none =>
    have happend : ((db.memoryCandidates ++ [x.candidate now]).map MemoryCandidate.id).Nodup := by
      rw [List.map_append]
      refine hids.append (List.nodup_singleton _) fun id hid hnew => hfresh ?_
      rwa [List.mem_singleton.mp hnew] at hid
    dsimp only
    split
    · exact hfilter _ _ happend
    · exact happend
  | some item =>
    have hupdate : ((update db.memoryCandidates item.id fun c =>
        c.hitBy (x.candidate now)).map MemoryCandidate.id).Nodup := by
      have hkeys :
          (update db.memoryCandidates item.id fun c => c.hitBy (x.candidate now)).map key =
          db.memoryCandidates.map key := map_key_update fun _ => rfl
      exact (congrArg List.Nodup hkeys).mpr hids
    dsimp only
    split
    · exact hfilter _ _ hupdate
    · exact hupdate

lemma sight_snd (db : Db) (x : Sighting) (now : Timestamp) :
    (sight db x now).2 =
      ((db.memoryCandidates.find? x.key.matches).map fun item => item.hitBy (x.candidate now)).getD
        (x.candidate now) := by
  have hfind : db.memoryCandidates.find? x.key.matches =
      findCandidate db x.target (x.candidate now).content (x.candidate now).memoryPool := rfl
  rw [hfind]
  unfold sight upsertCandidate
  cases findCandidate db x.target (x.candidate now).content (x.candidate now).memoryPool <;>
    dsimp only <;> split <;> rfl

end Rows

/-! ## What the rows stand for -/

/-- The candidate's count is of sightings that are consecutive, and its term is that of the last. -/
structure Backed (own : List Sighted) (c : MemoryCandidate) : Prop where
  counted : 1 ≤ c.hitCount
  consecutive : Consecutive c.hitCount.toNat own
  term : own.head?.map Sighted.validUntil = c.validUntil

structure Good (s : State) : Prop where
  ids : (s.db.memoryCandidates.map MemoryCandidate.id).Nodup
  /-- A row is found under one key. -/
  oneKey : ∀ c ∈ s.db.memoryCandidates, ∀ k k' : CandidateKey,
    k.matches c = true → k'.matches c = true → k = k'
  /-- A key finds one row. -/
  oneRow : ∀ c ∈ s.db.memoryCandidates, ∀ c' ∈ s.db.memoryCandidates, ∀ k : CandidateKey,
    k.matches c = true → k.matches c' = true → c = c'
  backed : ∀ c ∈ s.db.memoryCandidates, ∀ k : CandidateKey, k.matches c = true →
    Backed (ofKey k s.sightings) c

section Step

variable {s : State} {x : Sighting} {now : Timestamp} {c : MemoryCandidate} {k : CandidateKey}

lemma ofKey_cons_of_eq {y : Sighted} {older : List Sighted} (h : y.key = k) :
    ofKey k (y :: older) = y :: ofKey k older := List.filter_cons_of_pos (decide_eq_true h)

lemma ofKey_cons_of_ne {y : Sighted} {older : List Sighted} (h : y.key ≠ k) :
    ofKey k (y :: older) = ofKey k older := List.filter_cons_of_neg (by simpa using h)

lemma Consecutive.mono {n m : ℕ} {own : List Sighted} (h : Consecutive n own) (hm : m ≤ n) :
    Consecutive m own := by
  refine ⟨hm.trans h.1, ?_⟩
  rw [← Nat.min_eq_left hm, ← List.take_take]
  exact h.2.take m

lemma Good.filter (hs : Good s) {db : Db} {removes : MemoryCandidate → Bool}
    (hdb : db.memoryCandidates = s.db.memoryCandidates.filter fun c => !removes c) :
    Good { s with db := db } := by
  have hsub : ∀ c ∈ db.memoryCandidates, c ∈ s.db.memoryCandidates := fun c hc =>
    List.mem_of_mem_filter (hdb ▸ hc)
  refine ⟨?_, fun c hc => hs.oneKey c (hsub c hc), fun c hc c' hc' =>
    hs.oneRow c (hsub c hc) c' (hsub c' hc'), fun c hc => hs.backed c (hsub c hc)⟩
  rw [hdb]
  exact hs.ids.sublist (List.filter_sublist.map _)

lemma Sound.filter (hs : Sound s) {db : Db} {removes : MemoryCandidate → Bool}
    (hdb : db.memoryCandidates = s.db.memoryCandidates.filter fun c => !removes c) :
    Sound { s with db := db } := by
  unfold Sound at hs ⊢
  dsimp only
  split
  · trivial
  · next y older hsightings =>
    rw [hsightings] at hs
    exact ⟨hs.1, hs.2.1,
      fun hpromoted c hc => hs.2.2 hpromoted c (List.mem_of_mem_filter (hdb ▸ hc))⟩

lemma Good.eq_found (hs : Good s) {item : MemoryCandidate}
    (hfind : s.db.memoryCandidates.find? x.key.matches = some item) (hc : c ∈ s.db.memoryCandidates)
    (hkey : x.key.matches c = true) : c = item :=
  hs.oneRow c hc item (List.mem_of_find?_eq_some hfind) x.key hkey (List.find?_some hfind)

lemma Good.sight_key (hs : Good s) (h : k.matches (sight s.db x now).2 = true) : k = x.key := by
  rw [sight_snd] at h
  cases hfind : s.db.memoryCandidates.find? x.key.matches with
  | none =>
    rw [hfind] at h
    exact eq_key_of_matches h
  | some item =>
    rw [hfind] at h
    exact hs.oneKey item (List.mem_of_find?_eq_some hfind) k x.key h (List.find?_some hfind)

lemma Good.other_key (hs : Good s) (hc : c ∈ s.db.memoryCandidates)
    (hid : c.id ≠ (sight s.db x now).2.id) : x.key.matches c = false := by
  by_contra hkey
  rw [Bool.not_eq_false] at hkey
  rw [sight_snd] at hid
  cases hfind : s.db.memoryCandidates.find? x.key.matches with
  | none => exact List.find?_eq_none.mp hfind c hc hkey
  | some item =>
    rw [hfind] at hid
    rw [hs.eq_found hfind hc hkey] at hid
    exact hid rfl

lemma Good.backed_sight (hs : Good s) (hterm : ∀ c ∈ s.db.memoryCandidates.find? x.key.matches,
      ∀ v ∈ c.validUntil, now < v) :
    Backed (ofKey x.key (noted s.db x now :: s.sightings)) (sight s.db x now).2 := by
  have hcons : ofKey x.key (noted s.db x now :: s.sightings) =
      noted s.db x now :: ofKey x.key s.sightings := ofKey_cons_of_eq rfl
  rw [hcons, sight_snd]
  cases hfind : s.db.memoryCandidates.find? x.key.matches with
  | none => exact ⟨le_rfl, ⟨by simp [Sighting.candidate], by simp [Sighting.candidate]⟩, rfl⟩
  | some item =>
    rw [hfind] at hterm
    obtain ⟨hcounted, ⟨hlength, hchain⟩, hvalid⟩ :=
      hs.backed item (List.mem_of_find?_eq_some hfind) x.key (List.find?_some hfind)
    have htoNat : (item.hitCount + 1).toNat = item.hitCount.toNat + 1 := by omega
    refine ⟨?_, ⟨?_, ?_⟩, rfl⟩
    · show 1 ≤ item.hitCount + 1
      omega
    · show (item.hitCount + 1).toNat ≤ _
      rw [htoNat, List.length_cons]
      omega
    · show (List.take (item.hitCount + 1).toNat _).IsChain Sighted.InTermOf
      rw [htoNat, List.take_succ_cons]
      refine hchain.cons fun y hy => ?_
      have hhead : (ofKey x.key s.sightings).head? = some y := by
        rw [List.head?_take] at hy
        split at hy
        · cases hy
        · exact hy
      rw [hhead] at hvalid
      exact hterm item rfl y.validUntil hvalid.symm

lemma good_sight (hs : Good s)
    (hfresh : x.keys.candidateId ∉ s.db.memoryCandidates.map MemoryCandidate.id)
    (hterm : ∀ c ∈ s.db.memoryCandidates.find? x.key.matches, ∀ v ∈ c.validUntil, now < v) :
    Good
      { db := (sight s.db x now).1
        sightings := noted s.db x now :: s.sightings } := by
  have hmem : ∀ c ∈ (sight s.db x now).1.memoryCandidates,
      (c ∈ s.db.memoryCandidates ∧ x.key.matches c = false) ∨ c = (sight s.db x now).2 := by
    intro c hc
    rcases (mem_sight hs.ids hfresh).mp hc with ⟨hold, hid⟩ | ⟨heq, -⟩
    · exact .inl ⟨hold, hs.other_key hold hid⟩
    · exact .inr heq
  refine ⟨nodup_sight hs.ids hfresh, fun c hc k k' hk hk' => ?_, fun c hc c' hc' k hk hk' => ?_,
    fun c hc k hk => ?_⟩
  · rcases hmem c hc with ⟨hold, -⟩ | rfl
    · exact hs.oneKey c hold k k' hk hk'
    · rw [hs.sight_key hk, hs.sight_key hk']
  · rcases hmem c hc with ⟨hold, hother⟩ | rfl <;> rcases hmem c' hc' with ⟨hold', hother'⟩ | rfl
    · exact hs.oneRow c hold c' hold' k hk hk'
    · rw [hs.sight_key hk', hother] at hk
      cases hk
    · rw [hs.sight_key hk, hother'] at hk'
      cases hk'
    · rfl
  · rcases hmem c hc with ⟨hold, hother⟩ | rfl
    · have hne : (noted s.db x now).key ≠ k := fun heq => by
        rw [← heq] at hk
        exact Bool.false_ne_true (hother.symm.trans hk)
      show Backed (ofKey k (noted s.db x now :: s.sightings)) c
      rw [ofKey_cons_of_ne hne]
      exact hs.backed c hold k hk
    · rw [hs.sight_key hk]
      exact hs.backed_sight hterm

lemma sound_sight_iff (hs : Good s)
    (hfresh : x.keys.candidateId ∉ s.db.memoryCandidates.map MemoryCandidate.id) :
    Sound
      { db := (sight s.db x now).1
        sightings := noted s.db x now :: s.sightings } ↔
      ∀ c ∈ s.db.memoryCandidates.find? x.key.matches, ∀ v ∈ c.validUntil, now < v := by
  constructor
  · rintro ⟨-, hafresh, -⟩ item hfind v hv
    by_contra hover
    obtain ⟨hcounted, -, hterm⟩ :=
      hs.backed item (List.mem_of_find?_eq_some hfind) x.key (List.find?_some hfind)
    rw [hv] at hterm
    obtain ⟨previous, hprevious, rfl⟩ := Option.map_eq_some_iff.mp hterm
    have hone : (sight s.db x now).2.hitCount = 1 := hafresh previous hprevious (not_lt.mp hover)
    rw [sight_snd, hfind] at hone
    have hmore : item.hitCount + 1 = 1 := hone
    omega
  · intro hterm
    have hbacked := hs.backed_sight hterm
    refine ⟨fun hpromoted => hbacked.consecutive.mono (Int.toNat_le_toNat hpromoted),
      fun previous hprevious hover => ?_, fun hpromoted c hc => ?_⟩
    · show (sight s.db x now).2.hitCount = 1
      rw [sight_snd]
      cases hfind : s.db.memoryCandidates.find? x.key.matches with
      | none => rfl
      | some item =>
        -- the row has the term of the sighting before, so this one is in it
        have hvalid :=
          (hs.backed item (List.mem_of_find?_eq_some hfind) x.key (List.find?_some hfind)).term
        rw [show (ofKey x.key s.sightings).head? = some previous from hprevious] at hvalid
        exact absurd (hterm item hfind previous.validUntil hvalid.symm) hover.not_gt
    · rcases (mem_sight hs.ids hfresh).mp hc with ⟨hold, hid⟩ | ⟨-, hkept⟩
      · exact hs.other_key hold hid
      · exact absurd hpromoted hkept

end Step

/-- Promotions are earned in a history from a database without candidates exactly when no sighting
finds a candidate whose term is over. -/
theorem sound_iff_unexpired (db : Db) (hdb : db.memoryCandidates = []) (es : List Event) :
    AllSteps step (fun _ _ s' => Sound s') { db := db } es ↔
      StepsMeet step Unexpired { db := db } es := by
  refine allSteps_iff_stepsMeet (fun s => Good s ∧ Sound s) ?_ ?_ ?_
  · rintro s e ⟨hgood, hsound⟩
    cases e with
    | sight x now =>
      by_cases hfresh : x.keys.candidateId ∈ s.db.memoryCandidates.map MemoryCandidate.id
      · exact iff_of_true (fun s' h => by simp [step, hfresh] at h)
          fun hnew => absurd hfresh hnew
      · simp only [step, if_neg hfresh, Option.some.injEq, forall_eq']
        exact (sound_sight_iff hgood hfresh).trans ⟨fun h _ => h, fun h => h hfresh⟩
    | maintain profile changedAt now =>
      simp only [step, Option.some.injEq, forall_eq']
      exact iff_of_true (hsound.filter rfl) trivial
    | other db removes =>
      simp only [step, Option.some.injEq, forall_eq']
      exact iff_of_true (hsound.filter rfl) trivial
  · rintro s e s' ⟨hgood, hsound⟩ hok h
    cases e with
    | sight x now =>
      by_cases hfresh : x.keys.candidateId ∈ s.db.memoryCandidates.map MemoryCandidate.id
      · simp [step, hfresh] at h
      · simp only [step, if_neg hfresh, Option.some.injEq] at h
        subst h
        exact ⟨good_sight hgood hfresh (hok hfresh),
          (sound_sight_iff hgood hfresh).mpr (hok hfresh)⟩
    | maintain profile changedAt now =>
      simp only [step, Option.some.injEq] at h
      subst h
      exact ⟨hgood.filter rfl, hsound.filter rfl⟩
    | other db removes =>
      simp only [step, Option.some.injEq] at h
      subst h
      exact ⟨hgood.filter rfl, hsound.filter rfl⟩
  · exact ⟨⟨by simp [hdb], by simp [hdb], by simp [hdb], by simp [hdb]⟩, trivial⟩

instance (s : State) : ∀ e, Decidable (Unexpired s e)
  | .sight x now => inferInstanceAs (Decidable
      (x.keys.candidateId ∉ s.db.memoryCandidates.map MemoryCandidate.id →
        ∀ c ∈ findCandidate s.db x.target x.columns.content x.columns.memoryPool,
          ∀ v ∈ c.validUntil, now < v))
  | .maintain .. => inferInstanceAs (Decidable True)
  | .other .. => inferInstanceAs (Decidable True)

instance (n : ℕ) (own : List Sighted) : Decidable (Consecutive n own) :=
  have : ∀ x y : Sighted, Decidable (x.InTermOf y) := fun _ _ =>
    inferInstanceAs (Decidable (_ < _))
  inferInstanceAs (Decidable (_ ∧ _))

/-- The text comes up in a cocoon, with a term of three days; two sightings promote it. -/
def teaSighting (candidateId : RowId) : Sighting where
  target := .cocoon "c"
  columns := { id := "", content := "likes tea", firstSeenAt := 0, lastSeenAt := 0 }
  ttlHours := 72
  promoteHits := 2
  sourceKind := "candidate_promotion"
  keys := ⟨"m", candidateId⟩

def hours (n : ℕ) : Timestamp := n * 3600000000

/-- The second sighting comes ten hours after the first, and promotes. -/
theorem second_sighting_promotes :
    AllSteps step (fun _ _ s' => Sound s') { db := {} }
        [.sight (teaSighting "a") 0, .sight (teaSighting "b") (hours 10)] ∧
      (run step { db := {} } [.sight (teaSighting "a") 0, .sight (teaSighting "b") (hours 10)]).map
        (fun s => (s.db.memories.map MemoryChunk.content, s.db.memoryCandidates.length)) =
      some (["likes tea"], 0) :=
  ⟨(sound_iff_unexpired {} rfl _).mpr (by decide +kernel), by decide +kernel⟩

/-- The second sighting comes four days after the first, and promotes as well. -/
theorem late_sighting_promotes :
    ¬ AllSteps step (fun _ _ s' => Sound s') { db := {} }
        [.sight (teaSighting "a") 0, .sight (teaSighting "b") (hours 96)] ∧
      (run step { db := {} } [.sight (teaSighting "a") 0, .sight (teaSighting "b") (hours 96)]).map
        (fun s => (s.db.memories.map MemoryChunk.content, s.db.memoryCandidates.length)) =
      some (["likes tea"], 0) := by
  refine ⟨fun h => ?_, by decide +kernel⟩
  have hlast := (h.2.1 _ rfl).1 (by decide +kernel)
  exact absurd hlast (by decide +kernel)

end Candidates

end CocoonSit
